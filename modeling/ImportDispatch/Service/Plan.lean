import ImportDispatch.Coordinator
import ImportDispatch.Engine
import ImportDispatch.Service.Request
import ImportDispatch.Workflow.Shapes
/-!
# Plans

Once a request has its id and its two directories, everything that will be written is known, except for the coordinator:
it needs the place where the workflow has come to lie.  A plan holds all this before the first file is written.
-/
namespace ImportDispatch

/-- What is written for a job, and where. -/
structure Plan where
  jobId : Text
  dir : Text
  targetDir : Text
  workflow : Workflow
  /-- The coordinator of a recurring job, but for the place of its workflow. -/
  coordinator? : Option CoordinatorDraft
deriving DecidableEq, Repr

/-- Why there is no plan for a request. -/
inductive PlanError
  | command (error : ArgumentError)
  | definition (error : DefinitionError)
deriving DecidableEq, Repr

/-- The file that marks a saved job, in the directory of its workflow. -/
def flagPath (dir : Text) : Text := dir ++ '/' :: flagName

namespace Plan

/-- What is submitted in the end. -/
def kind (plan : Plan) : JobKind := if plan.coordinator?.isSome then .coordinator else .workflow

/-- The plan of an import that runs once: it imports into its target directory. -/
def once (jobId dir targetDir : Text) (job : ImportJob) : Except PlanError Plan := do
  let command ← (CommandLine.directImport { job.spec with targetDir }).mapError .command
  let workflow ← (oneShotDraft job.name command).build.mapError .definition
  return { jobId, dir, targetDir, workflow, coordinator? := none }

/-- The plan of a recurring import: the engine is told the target directory and fills it in. -/
def recurring (metastore jobId dir targetDir : Text) (job : ScheduledJob) : Except PlanError Plan := do
  let spec := { job.spec with targetDir := targetDirVariable }
  let save ← (CommandLine.saveJob metastore jobId spec).mapError .command
  let run ← (CommandLine.runJob metastore jobId spec).mapError .command
  let workflow ← (recurringDraft job.name (flagPath dir) spec.overwrite save run).build.mapError .definition
  return { jobId, dir, targetDir, workflow,
           coordinator? := some { name? := some job.name, schedule? := some job.schedule } }

end Plan

def JobRequest.plan (metastore jobId dir targetDir : Text) : JobRequest → Except PlanError Plan
  | once job => Plan.once jobId dir targetDir job
  | recurring job => Plan.recurring metastore jobId dir targetDir job

end ImportDispatch

import ImportDispatch.Proofs.JobId.Reserve
import ImportDispatch.Proofs.Service.Acceptance
import ImportDispatch.Proofs.Storage.Disk
import ImportDispatch.Proofs.Workflow.Shapes
/-!
# Submissions step by step

A submission can be stopped before each of its steps: its stage holds what the steps so far have given it, and the next
step is the one that `Service.submit` takes there (`submit_eq_advance`).  The stage also tells what the submission has
written so far, and what it is about to write.
-/
namespace ImportDispatch

open Attempt (runOn)

/-! ## Stages -/

/-- How far a submission has come, and what it has in hand. -/
inductive Stage (σ : Type)
  | received (request : JobRequest)
  | accepted (request : JobRequest)
  | opened (request : JobRequest) (workspace : Workspace σ)
  | named (request : JobRequest) (workspace : Workspace σ) (jobId : Text)
  | planned (workspace : Workspace σ) (plan : Plan)
  /-- The workflow is written, and lies in `appDir`. -/
  | described (workspace : Workspace σ) (plan : Plan) (appDir : Text)
  /-- The coordinator is written too, if there is one. -/
  | scheduled (workspace : Workspace σ) (plan : Plan) (appDir : Text)
  /-- All is written, and the engine comes next. -/
  | complete (plan : Plan) (appDir : Text)
  | started (plan : Plan) (job : StartedJob)

namespace Service

variable [ZoneDatabase] {σ τ : Type}

def advance (service : Service σ τ) (org : Text) (now : LocalTime) (suffixes : List Text) :
    Stage σ → Step σ τ (Stage σ)
  | .received request => do
    let request ← service.accept request
    return .accepted request
  | .accepted request => do
    let workspace ← service.openWorkspace org
    return .opened request workspace
  | .opened request workspace => do
    let jobId ← reserveId workspace now suffixes request.name
    return .named request workspace jobId
  | .named request workspace jobId => do
    let plan ← service.plan workspace jobId request
    return .planned workspace plan
  | .planned workspace plan => do
    let appDir ← writeWorkflow workspace plan
    return .described workspace plan appDir
  | .described workspace plan appDir => do
    let appDir ← writeCoordinator workspace plan appDir
    return .scheduled workspace plan appDir
  | .scheduled workspace plan appDir => do
    writeProperties workspace plan org
    return .complete plan appDir
  | .complete plan appDir => do
    let job ← service.start plan appDir
    return .started plan job
  | .started plan job => return .started plan job

def advanceBy (service : Service σ τ) (org : Text) (now : LocalTime) (suffixes : List Text) :
    Nat → Stage σ → Step σ τ (Stage σ)
  | 0, stage => return stage
  | n + 1, stage => do
    let stage ← service.advance org now suffixes stage
    service.advanceBy org now suffixes n stage

end Service

def Stage.job? {σ : Type} : Stage σ → Option StartedJob
  | started _ job => some job
  | _ => none

/-- **A submission is its steps, one after the other.** -/
theorem Service.submit_eq_advance [ZoneDatabase] {σ τ : Type} (service : Service σ τ) (org : Text) (now : LocalTime)
    (suffixes : List Text) (request : JobRequest) :
    Stage.job? <$> service.advanceBy org now suffixes 8 (.received request) =
      some <$> service.submit org now suffixes request := by
  simp only [advanceBy, advance, submit, bind_assoc, pure_bind, map_eq_pure_bind, Stage.job?]

/-! ## What is written -/

theorem workflowFileName_isName : IsName workflowFileName := ⟨by decide, by decide⟩

theorem coordinatorFileName_isName : IsName coordinatorFileName := ⟨by decide, by decide⟩

theorem connectionParamsFile_isName : IsName connectionParamsFile := ⟨by decide, by decide⟩

namespace Plan

variable [ZoneDatabase]

def workflowFile (plan : Plan) : Text × Text := (workflowFileName, plan.workflow.document)

/-- The coordinator of a recurring job, for the workflow in the directory of the plan. -/
def coordinatorFiles (plan : Plan) : List (Text × Text) :=
  match plan.coordinator? with
  | none => []
  | some draft =>
    match { draft with appDir? := some plan.dir }.build with
    | .ok coordinator => [(coordinatorFileName, coordinator.document)]
    | .error _ => []

def files (plan : Plan) (org : Text) : List (Text × Text) :=
  plan.workflowFile :: plan.coordinatorFiles ++ [(connectionParamsFile, sessionProperties org)]

theorem coordinatorFiles_of_none {plan : Plan} (h : plan.coordinator? = none) : plan.coordinatorFiles = [] := by
  unfold coordinatorFiles
  rw [h]

theorem coordinatorFiles_of_some {plan : Plan} {draft : CoordinatorDraft} {coordinator : Coordinator}
    (h : plan.coordinator? = some draft) (hbuild : { draft with appDir? := some plan.dir }.build = .ok coordinator) :
    plan.coordinatorFiles = [(coordinatorFileName, coordinator.document)] := by
  unfold coordinatorFiles
  rw [h]
  dsimp only
  rw [hbuild]

theorem coordinatorFiles_names (plan : Plan) : ∀ file ∈ plan.coordinatorFiles, file.1 = coordinatorFileName := by
  unfold coordinatorFiles
  intro file hfile
  split at hfile
  · cases hfile
  split at hfile
  · obtain rfl := List.mem_singleton.1 hfile
    rfl
  · cases hfile

end Plan

namespace Stage

variable {σ : Type}

/-- The id of a submission and the directory of its workflow, as soon as it has them. -/
def seat? : Stage σ → Option (Text × Text)
  | received _ | accepted _ | opened _ _ => none
  | named request workspace jobId => some (jobId, workspace.workflowDir jobId request.appDir)
  | planned _ plan | described _ plan _ | scheduled _ plan _ | complete plan _ | started plan _ =>
    some (plan.jobId, plan.dir)

/-- What a submission has written into its directory. -/
def written [ZoneDatabase] (org : Text) : Stage σ → List (Text × Text)
  | received _ | accepted _ | opened _ _ | named _ _ _ | planned _ _ => []
  | described _ plan _ => [plan.workflowFile]
  | scheduled _ plan _ => plan.workflowFile :: plan.coordinatorFiles
  | complete plan _ | started plan _ => plan.files org

/-- The directory that is made for the next file of a submission, and the path of the file. -/
def next? : Stage σ → Option (Text × Text)
  | planned _ plan => some (plan.dir, joinPath plan.dir workflowFileName)
  | described _ plan _ => plan.coordinator?.map fun _ => (plan.dir, joinPath plan.dir coordinatorFileName)
  | scheduled _ plan _ => some (plan.dir, plan.dir ++ '/' :: connectionParamsFile)
  | _ => none

end Stage

/-! ## What passes the rules -/

/-- A name that is one directory, and a path below it. -/
structure JobRequest.Placed (request : JobRequest) : Prop where
  name : '/' ∉ request.name
  appDir : pathViolation? "appPath".toList request.appDir = none

theorem normalName_no_slash {name : Text} (h : '/' ∉ name) : '/' ∉ normalName name := by
  intro hslash
  obtain ⟨c, hc, heq⟩ := List.mem_map.1 hslash
  split at heq
  · revert heq
    decide
  · exact h (heq ▸ hc)

theorem placeViolations_eq_nil {name appDir : Text} (h : placeViolations name appDir = []) :
    '/' ∉ normalName name ∧ pathViolation? "appPath".toList appDir = none := by
  unfold placeViolations violationIf at h
  rw [List.append_eq_nil_iff] at h
  obtain ⟨hname, hpath⟩ := h
  constructor
  · refine normalName_no_slash fun hslash => ?_
    have hany : name.any isPathSeparator = true := List.any_eq_true.2 ⟨'/', hslash, rfl⟩
    rw [hany, Bool.true_or, Bool.true_or, if_pos rfl] at hname
    cases hname
  · cases hv : pathViolation? "appPath".toList appDir with
    | none => rfl
    | some v => rw [hv] at hpath; cases hpath

theorem Service.accept_placed [ZoneDatabase] {σ τ : Type} {service : Service σ τ} {request accepted : JobRequest}
    (h : service.accept request = .ok accepted) : accepted.Placed := by
  obtain ⟨hviolations, rfl⟩ := Service.accept_eq_ok.1 h
  obtain ⟨hname, hpath⟩ := placeViolations_eq_nil (JobRequest.violations_eq_nil hviolations).1
  cases request with
  | once job => exact ⟨hname, hpath⟩
  | recurring job => exact ⟨hname, hpath⟩

/-! ## What is planned -/

namespace Plan

variable {jobId dir targetDir : Text} {plan : Plan}

theorem once_ok {job : ImportJob} (h : once jobId dir targetDir job = .ok plan) : ∃ command, plan = {
    jobId, dir, targetDir
    workflow := ⟨appName job.name, nodeName job.name "import", standardKillMessage, (oneShotDraft job.name command).nodes⟩
    coordinator? := none } := by
  obtain ⟨command, -, h⟩ := Attempt.bind_eq_ok h
  rw [build_oneShot] at h
  cases h
  exact ⟨command, rfl⟩

theorem recurring_ok {metastore : Text} {job : ScheduledJob} (h : recurring metastore jobId dir targetDir job = .ok plan) :
    ∃ save run, plan = {
      jobId, dir, targetDir
      workflow := ⟨appName job.name, nodeName job.name "decision", standardKillMessage,
        (recurringDraft job.name (flagPath dir) job.spec.overwrite save run).nodes⟩
      coordinator? := some { name? := some job.name, schedule? := some job.schedule } } := by
  obtain ⟨save, -, h⟩ := Attempt.bind_eq_ok h
  obtain ⟨run, -, h⟩ := Attempt.bind_eq_ok h
  rw [build_recurring] at h
  cases h
  exact ⟨save, run, rfl⟩

end Plan

theorem Service.plan_place {σ τ : Type} {service : Service σ τ} {workspace : Workspace σ} {id : Text}
    {request : JobRequest} {plan : Plan} (h : service.plan workspace id request = .ok plan) :
    plan.jobId = id ∧ plan.dir = workspace.workflowDir id request.appDir ∧
      plan.targetDir = workspace.targetDir id request.spec.targetDir ∧
      (plan.coordinator?.isSome ↔ ∃ job, request = .recurring job) := by
  have hplan := Attempt.mapError_eq_ok h
  cases request with
  | once job =>
    obtain ⟨command, rfl⟩ := Plan.once_ok hplan
    exact ⟨rfl, rfl, rfl, by simp⟩
  | recurring job =>
    obtain ⟨save, run, rfl⟩ := Plan.recurring_ok hplan
    exact ⟨rfl, rfl, rfl, by simp⟩

end ImportDispatch

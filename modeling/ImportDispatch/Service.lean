import ImportDispatch.JobId
import ImportDispatch.Service.Plan
/-!
# The service

A request goes through fixed steps: it is judged, brought into normal form, given an id in the workspace of its
organization, planned, written to the storage file by file, and handed to the engine.  The first step that fails ends
it.  A request that breaks a rule leaves no trace; a later failure leaves the files that were written before it.
-/
namespace ImportDispatch

/-! ## Errors -/

/-- Why a request does not become a job. -/
inductive SubmissionFailure
  /-- It breaks rules. -/
  | rejected (errors : List FieldReport)
  | beyondCalendar
  | reservation (error : ReservationError)
  | plan (error : PlanError)
  | storage (failure : StorageFailure)
  | engine (failure : EngineFailure)
deriving DecidableEq, Repr

def ReservationError.message : ReservationError → Text
  | storage failure => failure.message
  | suffixesUsedUp => "no free job id".toList

def PlanError.message : PlanError → Text
  | command error => error.message
  | definition error => error.message

def SubmissionFailure.message : SubmissionFailure → Text
  | rejected errors => rejectionText errors
  | beyondCalendar => DefinitionError.beyondCalendar.message
  | reservation error => error.message
  | plan error => error.message
  | storage failure => failure.message
  | engine failure => failure.message

/-! ## The service and its state -/

/-- What the service works with. -/
structure Service (σ τ : Type) where
  storage : Storage σ
  engine : Engine τ
  registry : Registry := []
  metastore : Text
  /-- The shortest period in minutes, in seconds. -/
  minimum : Nat := 300
  /-- The user of recurring imports that name none. -/
  username : Text := fallbackUsername

/-- What changes while the service works. -/
structure ServiceState (σ τ : Type) where
  reserved : Reservations := {}
  storage : σ
  engine : τ
deriving DecidableEq, Repr

/-- A job as the client gets to know it. -/
structure StartedJob where
  jobId : Text
  engineJobId : Text
deriving DecidableEq, Repr

/-- The longest name of a session that databases take. -/
def sessionNameLimit : Nat := 29

/-- The connection parameters of an organization: they mark its sessions in the database with its name. -/
def sessionProperties (org : Text) : Text :=
  "v$session.osuser=".toList ++ org.take sessionNameLimit ++ ['\n']

namespace Service

variable [ZoneDatabase] {σ τ α : Type}

/-- A step of the service. -/
abbrev Step (σ τ α : Type) := Attempt SubmissionFailure (ServiceState σ τ) α

def inStorage (step : Attempt StorageFailure σ α) : Step σ τ α :=
  step.within ServiceState.storage (fun storage state => { state with storage }) .storage

def inEngine (step : Attempt EngineFailure τ α) : Step σ τ α :=
  step.within ServiceState.engine (fun engine state => { state with engine }) .engine

/-! ## The steps of a submission -/

/-- The first rule on periods, which is also asked on its own. -/
def periodViolation? (service : Service σ τ) (schedule : Schedule) : Option Violation :=
  schedule.periodViolation? service.minimum

/-- The normal form of a request that breaks no rule. -/
def accept (service : Service σ τ) (request : JobRequest) : Except SubmissionFailure JobRequest :=
  match request.violations service.minimum with
  | .error .reached => .error .beyondCalendar
  | .ok [] => .ok (request.normal service.registry service.username)
  | .ok violations => .error (.rejected (violations.map Violation.report))

def openWorkspace (service : Service σ τ) (org : Text) : Step σ τ (Workspace σ) :=
  inStorage (service.storage.workspace org)

def reserveId (workspace : Workspace σ) (now : LocalTime) (suffixes : List Text) (name : Text) : Step σ τ Text :=
  (JobId.reserve workspace now suffixes name).within (fun state => (state.reserved, state.storage))
    (fun (reserved, storage) state => { state with reserved, storage }) .reservation

/-- The plan of a request under its id. -/
def plan (service : Service σ τ) (workspace : Workspace σ) (jobId : Text) (request : JobRequest) :
    Except SubmissionFailure Plan :=
  (request.plan service.metastore jobId (workspace.workflowDir jobId request.appDir)
    (workspace.targetDir jobId request.spec.targetDir)).mapError .plan

/-- Writes the workflow, and gives the directory it lies in. -/
def writeWorkflow (workspace : Workspace σ) (plan : Plan) : Step σ τ Text := do
  let path ← inStorage (workspace.writeWorkflow plan.dir plan.workflow.document)
  return directoryOf path

/-- Writes the coordinator, if there is one, for the workflow in `appDir`.  The result is the directory that the engine
starts from. -/
def writeCoordinator (workspace : Workspace σ) (plan : Plan) (appDir : Text) : Step σ τ Text :=
  match plan.coordinator? with
  | none => return appDir
  | some draft => do
    let coordinator ← Attempt.ofExcept (fun e => .plan (.definition e)) { draft with appDir? := some appDir }.build
    let path ← inStorage (workspace.writeCoordinator plan.dir coordinator.document)
    return directoryOf path

def writeProperties (workspace : Workspace σ) (plan : Plan) (org : Text) : Step σ τ Unit :=
  inStorage (workspace.addFile (plan.dir ++ '/' :: connectionParamsFile) (sessionProperties org))

/-- Hands the job to the engine. -/
def start (service : Service σ τ) (plan : Plan) (appDir : Text) : Step σ τ StartedJob := do
  let engineJobId ← inEngine (service.engine.submit ⟨plan.kind, appDir, plan.targetDir⟩)
  return ⟨plan.jobId, engineJobId⟩

/-- Makes a job of a request. -/
def submit (service : Service σ τ) (org : Text) (now : LocalTime) (suffixes : List Text) (request : JobRequest) :
    Step σ τ StartedJob := do
  let request ← service.accept request
  let workspace ← service.openWorkspace org
  let jobId ← reserveId workspace now suffixes request.name
  let plan ← service.plan workspace jobId request
  let appDir ← writeWorkflow workspace plan
  let appDir ← writeCoordinator workspace plan appDir
  writeProperties workspace plan org
  service.start plan appDir

end Service

/-! ## What is offered -/

/-- What clients of an organization need to know before they ask for an import. -/
structure Offer where
  databases : Registry
  timezones : List Text
  /-- The directory of the organization, with a slash behind it. -/
  organizationDirectory : Text
  /-- The shortest period in minutes, in seconds. -/
  minimum : Nat
deriving DecidableEq, Repr

def Service.offer [ZoneDatabase] {σ τ : Type} (service : Service σ τ) (org : Text) : Service.Step σ τ Offer := do
  let workspace ← service.openWorkspace org
  return {
    databases := service.registry
    timezones := offeredZones
    organizationDirectory := Text.trimEnd (· == '/') workspace.home ++ ['/']
    minimum := service.minimum }

end ImportDispatch

import ImportDispatch.Engine.Ledger
import ImportDispatch.Proofs.Service.Stage
import ImportDispatch.Proofs.Service.Verdicts
import ImportDispatch.Proofs.Storage.Creation
import ImportDispatch.Zone.Selection
/-!
# What a submission leaves behind

Nothing is rolled back, so a submission that fails leaves what it has done so far.  That is always a beginning of one
list, the artifacts of its plan (`Plan.artifacts`), and the engine hears of the job only when the list is complete.  Each
stage accounts for the state it is reached in (`Stage.Accounts`), a step keeps that up or abandons the submission
(`advance_accounts`), and so does the whole run (`advanceBy_accounts`).

Storage and engine are arbitrary here, but for the law that the storage creates or fails.  What is called shows in their
states: where a state is as before, nothing was called, and `Engine.recorded` keeps the list of calls.
-/
namespace ImportDispatch

open Attempt (runOn)

variable {σ τ κ : Type}

/-! ## Calls of the engine -/

namespace Engine

/-- What becomes of an engine that is given these submissions, one after the other. -/
def afterCalls (engine : Engine τ) (state : τ) (calls : List Submission) : τ :=
  calls.foldl (fun state submission => (runOn (engine.submit submission) state).2) state

/-- The engine with a list of its calls beside its state, the oldest first. -/
def recorded (engine : Engine τ) : Engine (τ × List Submission) where
  submit submission := do
    modify fun (state, calls) => (state, calls ++ [submission])
    (engine.submit submission).within Prod.fst (fun state whole => (state, whole.2)) id

/-- The list beside the engine has the calls. -/
theorem recorded_afterCalls (engine : Engine τ) : ∀ (calls : List Submission) (state : τ) (log : List Submission),
    engine.recorded.afterCalls (state, log) calls = (engine.afterCalls state calls, log ++ calls)
  | [], state, log => by rw [List.append_nil]; rfl
  | submission :: calls, state, log => by
    have hcall : (runOn (engine.recorded.submit submission) (state, log)).2 =
        ((runOn (engine.submit submission) state).2, log ++ [submission]) := by
      simp [recorded, Attempt.runOn_bind]
    have htail := recorded_afterCalls engine calls (runOn (engine.submit submission) state).2 (log ++ [submission])
    rw [List.append_assoc] at htail
    unfold afterCalls at htail ⊢
    rw [List.foldl_cons, List.foldl_cons, hcall]
    exact htail

end Engine

/-! ## Artifacts -/

namespace Plan

variable (pathIn : Text → Text → Text)

/-- The coordinator of a recurring job, for the workflow where it has come to lie.  A draft with a fault has no document,
and is not written. -/
def coordinatorArtifacts [ZoneDatabase] (plan : Plan) : List (Text × Text) :=
  match plan.coordinator? with
  | none => []
  | some draft =>
    let document := match { draft with appDir? := some (directoryOf (pathIn plan.dir workflowFileName)) }.build with
      | .ok coordinator => coordinator.document
      | .error _ => []
    [(pathIn plan.dir coordinatorFileName, document)]

/-- All that is written for a plan, in this order: the workflow, the coordinator of a recurring job, and the connection
parameters.  `pathIn` is the path of a definition in its directory. -/
def artifacts [ZoneDatabase] (plan : Plan) (org : Text) : List (Text × Text) :=
  (pathIn plan.dir workflowFileName, plan.workflow.document) ::
    (plan.coordinatorArtifacts pathIn ++ [(plan.dir ++ '/' :: connectionParamsFile, sessionProperties org)])

def submission (plan : Plan) : Submission where
  kind := plan.kind
  appDir := directoryOf (pathIn plan.dir (if plan.coordinator?.isSome then coordinatorFileName else workflowFileName))
  targetDir := plan.targetDir

end Plan

/-- The files of a request, in the order in which they are written. -/
def JobRequest.artifactNames : JobRequest → List Text
  | once _ => [workflowFileName, connectionParamsFile]
  | recurring _ => [workflowFileName, coordinatorFileName, connectionParamsFile]

/-! ## Accounts -/

/-- What has come to a state: files that were written, and calls of the engine. -/
structure Service.Leaves (service : Service σ τ) (view : FileView σ κ) (s : ServiceState σ τ)
    (written : List (Text × Text)) (calls : List Submission) (s' : ServiceState σ τ) : Prop where
  files : view.Adds s.storage written s'.storage
  engine : s'.engine = service.engine.afterCalls s.engine calls

theorem Service.Leaves.trans {service : Service σ τ} {view : FileView σ κ} {s s' s'' : ServiceState σ τ}
    {written more : List (Text × Text)} {calls later : List Submission} (h : service.Leaves view s written calls s')
    (h' : service.Leaves view s' more later s'') :
    service.Leaves view s (written ++ more) (calls ++ later) s'' where
  files := h.files.trans h'.files
  engine := by rw [h'.engine, h.engine, Engine.afterCalls, Engine.afterCalls, Engine.afterCalls, List.foldl_append]

/-- The plan that the service makes of a request: under the id that it gives out in the workspace of the organization,
for the directory that the workspace has for this id. -/
structure Service.Plans [ZoneDatabase] (service : Service σ τ) (org : Text) (now : LocalTime) (suffixes : List Text)
    (request : JobRequest) (s : ServiceState σ τ) (plan : Plan) : Prop where
  made : ∃ normal workspace s₁ s₂, service.accept request = .ok normal ∧
    runOn (service.openWorkspace org) s = (.ok workspace, s₁) ∧
    runOn (Service.reserveId workspace now suffixes normal.name) s₁ = (.ok plan.jobId, s₂) ∧
    service.plan workspace plan.jobId normal = .ok plan ∧
    plan.dir = workspace.workflowDir plan.jobId request.appDir
  recurring : plan.coordinator?.isSome ↔ ∃ job, request = .recurring job

/-- What a stage accounts for: what the submission has in hand, where it is from, and all that has changed so far. -/
def Stage.Accounts [ZoneDatabase] (service : Service σ τ) (view : FileView σ κ) (org : Text) (now : LocalTime)
    (suffixes : List Text) (request : JobRequest) (s₀ s : ServiceState σ τ) : Stage σ → Prop
  | .received coming => coming = request ∧ s = s₀
  | .accepted normal => service.accept request = .ok normal ∧ s = s₀
  | .opened normal workspace =>
    service.accept request = .ok normal ∧ runOn (service.openWorkspace org) s₀ = (.ok workspace, s)
  | .named normal workspace jobId => service.accept request = .ok normal ∧
    ∃ s₁, runOn (service.openWorkspace org) s₀ = (.ok workspace, s₁) ∧
      runOn (Service.reserveId workspace now suffixes normal.name) s₁ = (.ok jobId, s)
  | .planned workspace plan => service.Plans org now suffixes request s₀ plan ∧ workspace.CreatesOrFails view ∧
    service.Leaves view s₀ [] [] s
  | .described workspace plan appDir => service.Plans org now suffixes request s₀ plan ∧
    workspace.CreatesOrFails view ∧ appDir = directoryOf (view.pathIn plan.dir workflowFileName) ∧
      service.Leaves view s₀ [(view.pathIn plan.dir workflowFileName, plan.workflow.document)] [] s
  | .scheduled workspace plan appDir => service.Plans org now suffixes request s₀ plan ∧
    workspace.CreatesOrFails view ∧ appDir = (plan.submission view.pathIn).appDir ∧
      service.Leaves view s₀ ((view.pathIn plan.dir workflowFileName, plan.workflow.document) ::
        plan.coordinatorArtifacts view.pathIn) [] s
  | .complete plan appDir => service.Plans org now suffixes request s₀ plan ∧
    appDir = (plan.submission view.pathIn).appDir ∧ service.Leaves view s₀ (plan.artifacts view.pathIn org) [] s
  | .started plan job => service.Plans org now suffixes request s₀ plan ∧ job.jobId = plan.jobId ∧
    (runOn (service.engine.submit (plan.submission view.pathIn)) s₀.engine).1 = .ok job.engineJobId ∧
      service.Leaves view s₀ (plan.artifacts view.pathIn org) [plan.submission view.pathIn] s

/-- What is left behind by a submission that fails: nothing if the request breaks rules, else a beginning of the
artifacts, and a call of the engine only behind all of them. -/
structure Service.Abandons [ZoneDatabase] (service : Service σ τ) (view : FileView σ κ) (org : Text) (now : LocalTime)
    (suffixes : List Text) (request : JobRequest) (s₀ : ServiceState σ τ) (e : SubmissionFailure)
    (s' : ServiceState σ τ) : Prop where
  rejected : ∀ errors, e = .rejected errors → s' = s₀
  left : ∃ written calls, service.Leaves view s₀ written calls s' ∧
    (written = [] ∧ calls = [] ∨ ∃ plan, service.Plans org now suffixes request s₀ plan ∧
      written <+: plan.artifacts view.pathIn org ∧
      (calls = [] ∨ written = plan.artifacts view.pathIn org ∧ calls = [plan.submission view.pathIn]))

section Steps

variable {service : Service σ τ} {view : FileView σ κ} {org : Text} {now : LocalTime} {suffixes : List Text}
  {request : JobRequest} {s₀ s : ServiceState σ τ}

/-- A step goes on to a stage that accounts for the state, or abandons the submission. -/
def Service.KeepsAccount [ZoneDatabase] (service : Service σ τ) (view : FileView σ κ) (org : Text) (now : LocalTime)
    (suffixes : List Text) (request : JobRequest) (s₀ : ServiceState σ τ) :
    Except SubmissionFailure (Stage σ) × ServiceState σ τ → Prop
  | (.ok stage, s') => stage.Accounts service view org now suffixes request s₀ s'
  | (.error e, s') => service.Abandons view org now suffixes request s₀ e s'

/-! ## Before the plan -/

theorem Service.Leaves.refl (s : ServiceState σ τ) : service.Leaves view s [] [] s := ⟨.refl _, rfl⟩

theorem Service.Leaves.inStorage {α : Type} {step : Attempt StorageFailure σ α} {written : List (Text × Text)}
    (h : view.Adds s.storage written (runOn step s.storage).2) :
    service.Leaves view s written [] (runOn (Service.inStorage step) s).2 := ⟨h, rfl⟩

theorem Service.inStorage_ok {α : Type} {step : Attempt StorageFailure σ α} {a : α} {s s' : ServiceState σ τ}
    (h : runOn (Service.inStorage step) s = (.ok a, s')) : (runOn step s.storage).1 = .ok a :=
  Attempt.mapError_eq_ok (congrArg Prod.fst h)

theorem Service.creates_leaves {α : Type} {step : Attempt StorageFailure σ α} {file : Text × Text}
    {result : Except SubmissionFailure α} {s s' : ServiceState σ τ}
    (hcreates : view.Creates s.storage file (runOn step s.storage))
    (h : runOn (Service.inStorage step) s = (result, s')) :
    service.Leaves view s (FileView.written file result) [] s' := by
  unfold FileView.Creates at hcreates
  simp only [Service.inStorage, Attempt.runOn_within] at h
  rcases hrun : runOn step s.storage with ⟨_ | a, storage⟩ <;> rw [hrun] at h hcreates <;> cases h <;>
    exact ⟨hcreates, rfl⟩

theorem Service.Abandons.empty [ZoneDatabase] {e : SubmissionFailure} {s' : ServiceState σ τ} (he : ¬e.IsVerdict)
    (h : service.Leaves view s₀ [] [] s') : service.Abandons view org now suffixes request s₀ e s' where
  rejected _ hrejected := absurd (hrejected ▸ trivial) he
  left := ⟨[], [], h, .inl ⟨rfl, rfl⟩⟩

theorem Service.Abandons.partway [ZoneDatabase] {e : SubmissionFailure} {s' : ServiceState σ τ} {plan : Plan}
    {written : List (Text × Text)} (he : ¬e.IsVerdict)
    (hplan : service.Plans org now suffixes request s₀ plan) (hwritten : written <+: plan.artifacts view.pathIn org)
    (h : service.Leaves view s₀ written [] s') : service.Abandons view org now suffixes request s₀ e s' where
  rejected _ hrejected := absurd (hrejected ▸ trivial) he
  left := ⟨written, [], h, .inr ⟨plan, hplan, hwritten, .inl rfl⟩⟩

theorem JobId.firstFree_adds {workspace : Workspace σ} (hworkspace : workspace.CreatesOrFails view) (dirs : List Text) :
    ∀ (suffixes : List Text) (id : Text) (s : σ), view.Adds s [] (runOn (firstFree workspace dirs suffixes id) s).2
  | suffixes, id, s => by
    have hask : view.Adds s [] (runOn (ask workspace dirs (workspace.workflowDir id [])) s).2 := by
      unfold ask
      split
      · exact .refl s
      · exact hworkspace.isTaken _ s
    rw [firstFree_eq, Attempt.runOn_bind]
    rcases ha : runOn (ask workspace dirs (workspace.workflowDir id [])) s with ⟨e | taken, s₁⟩
    · rw [ha] at hask
      exact hask
    rw [ha] at hask
    cases taken with
    | false => exact hask
    | true =>
      cases suffixes with
      | nil => exact hask
      | cons suffix rest => exact hask.trans (firstFree_adds hworkspace dirs rest _ s₁)

theorem Service.reserveId_leaves {workspace : Workspace σ} (hworkspace : workspace.CreatesOrFails view) {name : Text}
    {result : Except SubmissionFailure Text} {s s' : ServiceState σ τ}
    (h : runOn (Service.reserveId workspace now suffixes name) s = (result, s')) : service.Leaves view s [] [] s' := by
  obtain rfl : (runOn (Service.reserveId workspace now suffixes name) s).2 = s' := congrArg Prod.snd h
  refine ⟨?_, rfl⟩
  have hsearch := JobId.firstFree_adds hworkspace (s.reserved.inSecond now.stampText).dirs suffixes
    (JobId.base name now.stampText) s.storage
  show view.Adds s.storage [] (runOn (JobId.reserve workspace now suffixes name) (s.reserved, s.storage)).2.2
  rw [JobId.reserve_eq]
  rcases hrun : runOn (JobId.firstFree workspace (s.reserved.inSecond now.stampText).dirs suffixes
    (JobId.base name now.stampText)) s.storage with ⟨_ | id, storage⟩ <;> rw [hrun] at hsearch <;> exact hsearch

/-- The workspace of an organization keeps the law of the storage, and opening it writes nothing. -/
theorem Service.openWorkspace_leaves (hstorage : service.storage.CreatesOrFails view)
    {result : Except SubmissionFailure (Workspace σ)} {s s' : ServiceState σ τ}
    (h : runOn (service.openWorkspace org) s = (result, s')) :
    service.Leaves view s [] [] s' ∧ ∀ workspace, result = .ok workspace → workspace.CreatesOrFails view := by
  obtain rfl : (runOn (service.openWorkspace org) s).2 = s' := congrArg Prod.snd h
  refine ⟨.inStorage (hstorage.opens org s.storage), ?_⟩
  rintro workspace rfl
  exact hstorage.workspace org s.storage workspace (Service.inStorage_ok h)

variable [ZoneDatabase]

theorem Service.accept_appDir {normal : JobRequest} (h : service.accept request = .ok normal) :
    normal.appDir = request.appDir ∧ ((∃ job, normal = .recurring job) ↔ ∃ job, request = .recurring job) := by
  obtain ⟨-, rfl⟩ := Service.accept_eq_ok.1 h
  cases request with
  | once job => exact ⟨rfl, by simp [JobRequest.normal]⟩
  | recurring job => exact ⟨rfl, by simp [JobRequest.normal]⟩

/-! ## Steps -/

theorem accounts_received {coming : JobRequest}
    (h : (Stage.received coming).Accounts service view org now suffixes request s₀ s) :
    service.KeepsAccount view org now suffixes request s₀
      (runOn (service.advance org now suffixes (.received coming)) s) := by
  obtain ⟨rfl, rfl⟩ := h
  simp only [Service.advance, Attempt.runOn_bind, Attempt.runOn_lift]
  cases haccept : service.accept coming with
  | error e => exact ⟨fun _ _ => rfl, [], [], .refl s, .inl ⟨rfl, rfl⟩⟩
  | ok normal => exact ⟨haccept, rfl⟩

theorem accounts_accepted (hstorage : service.storage.CreatesOrFails view) {normal : JobRequest}
    (h : (Stage.accepted normal).Accounts service view org now suffixes request s₀ s) :
    service.KeepsAccount view org now suffixes request s₀
      (runOn (service.advance org now suffixes (.accepted normal)) s) := by
  obtain ⟨haccept, rfl⟩ := h
  rw [Service.advance, Attempt.runOn_bind]
  rcases hopen : runOn (service.openWorkspace org) s with ⟨e | workspace, s₁⟩
  · obtain ⟨hleaves, -⟩ := Service.openWorkspace_leaves hstorage hopen
    exact .empty (Service.JudgesNothing.of_run (.inStorage _) hopen) hleaves
  · exact ⟨haccept, hopen⟩

theorem accounts_opened (hstorage : service.storage.CreatesOrFails view) {normal : JobRequest} {workspace : Workspace σ}
    (h : (Stage.opened normal workspace).Accounts service view org now suffixes request s₀ s) :
    service.KeepsAccount view org now suffixes request s₀
      (runOn (service.advance org now suffixes (.opened normal workspace)) s) := by
  obtain ⟨haccept, hopen⟩ := h
  obtain ⟨hopens, hworkspace⟩ := Service.openWorkspace_leaves hstorage hopen
  rw [Service.advance, Attempt.runOn_bind]
  rcases hreserve : runOn (Service.reserveId workspace now suffixes normal.name) s with ⟨e | id, s₁⟩
  · have hleaves : service.Leaves view s [] [] s₁ := Service.reserveId_leaves (hworkspace _ rfl) hreserve
    exact .empty (Service.JudgesNothing.of_run (.reserveId _) hreserve) (hopens.trans hleaves)
  · exact ⟨haccept, s, hopen, hreserve⟩

theorem accounts_named (hstorage : service.storage.CreatesOrFails view) {normal : JobRequest} {workspace : Workspace σ}
    {id : Text} (h : (Stage.named normal workspace id).Accounts service view org now suffixes request s₀ s) :
    service.KeepsAccount view org now suffixes request s₀
      (runOn (service.advance org now suffixes (.named normal workspace id)) s) := by
  obtain ⟨haccept, s₁, hopen, hreserve⟩ := h
  obtain ⟨hopens, hworkspace⟩ := Service.openWorkspace_leaves hstorage hopen
  have hleaves := hopens.trans (Service.reserveId_leaves (hworkspace _ rfl) hreserve)
  obtain ⟨happDir, hrecurring⟩ := Service.accept_appDir haccept
  simp only [Service.advance, Attempt.runOn_bind, Attempt.runOn_lift]
  cases hplan : service.plan workspace id normal with
  | error e =>
    exact .empty (Service.JudgesNothing.plan id s e hplan) hleaves
  | ok plan =>
    obtain ⟨rfl, hdir, -, hcoordinator⟩ := Service.plan_place hplan
    rw [happDir] at hdir
    exact ⟨⟨⟨normal, workspace, s₁, s, haccept, hopen, hreserve, hplan, hdir⟩,
      hcoordinator.trans hrecurring⟩, hworkspace _ rfl, hleaves⟩

theorem accounts_planned {workspace : Workspace σ} {plan : Plan}
    (h : (Stage.planned workspace plan).Accounts service view org now suffixes request s₀ s) :
    service.KeepsAccount view org now suffixes request s₀
      (runOn (service.advance org now suffixes (.planned workspace plan)) s) := by
  obtain ⟨hplan, hworkspace, hleaves⟩ := h
  rw [Service.advance, Service.writeWorkflow, bind_assoc, Attempt.runOn_bind]
  rcases hwrite : runOn (Service.inStorage (workspace.writeWorkflow plan.dir plan.workflow.document)) s with ⟨result, s₁⟩
  have hwritten : service.Leaves view s _ [] s₁ := Service.creates_leaves (hworkspace.addDefinition _ _ _ _) hwrite
  cases result with
  | error e =>
    exact .partway (Service.JudgesNothing.of_run (.inStorage _) hwrite) hplan List.nil_prefix (hleaves.trans hwritten)
  | ok path =>
    have hpath := hworkspace.path _ _ _ _ path (Service.inStorage_ok hwrite)
    exact ⟨hplan, hworkspace, congrArg directoryOf hpath, hleaves.trans hwritten⟩

theorem accounts_described {workspace : Workspace σ} {plan : Plan} {appDir : Text}
    (h : (Stage.described workspace plan appDir).Accounts service view org now suffixes request s₀ s) :
    service.KeepsAccount view org now suffixes request s₀
      (runOn (service.advance org now suffixes (.described workspace plan appDir)) s) := by
  obtain ⟨hplan, hworkspace, happDir, hleaves⟩ := h
  rw [Service.advance, Service.writeCoordinator]
  cases hcoordinator : plan.coordinator? with
  | none =>
    have hartifacts : plan.coordinatorArtifacts view.pathIn = [] := by rw [Plan.coordinatorArtifacts, hcoordinator]
    have hsubmission : (plan.submission view.pathIn).appDir = appDir := by
      rw [Plan.submission, hcoordinator, happDir]
      rfl
    exact ⟨hplan, hworkspace, hsubmission.symm, by rw [hartifacts]; exact hleaves⟩
  | some draft =>
    rw [bind_assoc, Attempt.runOn_bind, Attempt.runOn_ofExcept]
    cases hbuild : { draft with appDir? := some appDir }.build with
    | error e => exact .partway (fun he => he) hplan ⟨_, rfl⟩ hleaves
    | ok coordinator =>
      have hartifacts : plan.coordinatorArtifacts view.pathIn =
          [(view.pathIn plan.dir coordinatorFileName, coordinator.document)] := by
        simp only [Plan.coordinatorArtifacts, hcoordinator, ← happDir, hbuild]
      dsimp only [Except.mapError]
      rw [bind_assoc, Attempt.runOn_bind]
      rcases hwrite : runOn (Service.inStorage (workspace.writeCoordinator plan.dir coordinator.document)) s with
        ⟨result, s₁⟩
      have hwritten : service.Leaves view s _ [] s₁ := Service.creates_leaves (hworkspace.addDefinition _ _ _ _) hwrite
      cases result with
      | error e =>
        exact .partway (Service.JudgesNothing.of_run (.inStorage _) hwrite) hplan ⟨_, rfl⟩ (hleaves.trans hwritten)
      | ok path =>
        have hpath := hworkspace.path _ _ _ _ path (Service.inStorage_ok hwrite)
        have hsubmission : (plan.submission view.pathIn).appDir = directoryOf path := by
          rw [Plan.submission, hcoordinator, hpath]
          rfl
        exact ⟨hplan, hworkspace, hsubmission.symm, by rw [hartifacts]; exact hleaves.trans hwritten⟩

theorem accounts_scheduled {workspace : Workspace σ} {plan : Plan} {appDir : Text}
    (h : (Stage.scheduled workspace plan appDir).Accounts service view org now suffixes request s₀ s) :
    service.KeepsAccount view org now suffixes request s₀
      (runOn (service.advance org now suffixes (.scheduled workspace plan appDir)) s) := by
  obtain ⟨hplan, hworkspace, happDir, hleaves⟩ := h
  rw [Service.advance, Attempt.runOn_bind]
  rcases hwrite : runOn (Service.writeProperties workspace plan org) s with ⟨result, s₁⟩
  have hwritten : service.Leaves view s _ [] s₁ := Service.creates_leaves (hworkspace.addFile _ _ _) hwrite
  cases result with
  | error e =>
    refine .partway (Service.JudgesNothing.of_run (.inStorage _) hwrite) hplan ?_ (hleaves.trans hwritten)
    exact ⟨[(plan.dir ++ '/' :: connectionParamsFile, sessionProperties org)], by simp [Plan.artifacts, FileView.written]⟩
  | ok written => exact ⟨hplan, happDir, hleaves.trans hwritten⟩

theorem accounts_complete {plan : Plan} {appDir : Text}
    (h : (Stage.complete plan appDir).Accounts service view org now suffixes request s₀ s) :
    service.KeepsAccount view org now suffixes request s₀
      (runOn (service.advance org now suffixes (.complete plan appDir)) s) := by
  obtain ⟨hplan, rfl, hleaves⟩ := h
  have hsame : s.engine = s₀.engine := hleaves.engine
  have hcall : service.Leaves view s [] [plan.submission view.pathIn]
      (runOn (Service.inEngine (service.engine.submit (plan.submission view.pathIn))) s).2 := ⟨.refl _, rfl⟩
  have hleaves := hleaves.trans hcall
  rw [List.append_nil] at hleaves
  have hsubmission : ⟨plan.kind, (plan.submission view.pathIn).appDir, plan.targetDir⟩ = plan.submission view.pathIn := rfl
  rw [Service.advance, Service.start, bind_assoc, Attempt.runOn_bind, hsubmission]
  rcases hrun : runOn (Service.inEngine (service.engine.submit (plan.submission view.pathIn))) s with ⟨e | id, s₁⟩
  · rw [hrun] at hleaves
    obtain ⟨failure, -, rfl⟩ := Attempt.mapError_eq_error.1 (congrArg Prod.fst hrun)
    exact ⟨fun _ he => (by cases he), _, _, hleaves, .inr ⟨plan, hplan, List.prefix_rfl, .inr ⟨rfl, rfl⟩⟩⟩
  · rw [hrun] at hleaves
    have hanswer := Attempt.mapError_eq_ok (congrArg Prod.fst hrun)
    exact ⟨hplan, rfl, hsame ▸ hanswer, hleaves⟩

/-- **Every step keeps account of what it leaves behind.** -/
theorem advance_accounts (hstorage : service.storage.CreatesOrFails view) {stage : Stage σ}
    (h : stage.Accounts service view org now suffixes request s₀ s) :
    service.KeepsAccount view org now suffixes request s₀ (runOn (service.advance org now suffixes stage) s) := by
  cases stage with
  | received coming => exact accounts_received h
  | accepted normal => exact accounts_accepted hstorage h
  | opened normal workspace => exact accounts_opened hstorage h
  | named normal workspace id => exact accounts_named hstorage h
  | planned workspace plan => exact accounts_planned h
  | described workspace plan appDir => exact accounts_described h
  | scheduled workspace plan appDir => exact accounts_scheduled h
  | complete plan appDir => exact accounts_complete h
  | started plan job => exact h

theorem advanceBy_accounts (hstorage : service.storage.CreatesOrFails view) : ∀ (n : Nat) {stage : Stage σ}
    {s : ServiceState σ τ}, stage.Accounts service view org now suffixes request s₀ s →
      service.KeepsAccount view org now suffixes request s₀ (runOn (service.advanceBy org now suffixes n stage) s)
  | 0, _, _, h => h
  | n + 1, stage, s, h => by
    have hstep := advance_accounts hstorage h
    rw [Service.advanceBy, Attempt.runOn_bind]
    rcases hrun : runOn (service.advance org now suffixes stage) s with ⟨e | next, s₁⟩
    · rw [hrun] at hstep
      exact hstep
    · rw [hrun] at hstep
      exact advanceBy_accounts hstorage n hstep

end Steps

/-! ## Runs -/

/-- The artifacts are the files of the request, in the directory of its workflow. -/
theorem Service.Plans.artifacts_inside [ZoneDatabase] {service : Service σ τ} {view : FileView σ κ} {org : Text}
    {now : LocalTime} {suffixes : List Text} {request : JobRequest} {s : ServiceState σ τ} {plan : Plan}
    (hplan : service.Plans org now suffixes request s plan) (hstorage : service.storage.CreatesOrFails view) :
    List.Forall₂ (fun name file => IsFileIn plan.dir name file.1) request.artifactNames
      (plan.artifacts view.pathIn org) := by
  have hworkflow := hstorage.inside plan.dir workflowFileName workflowFileName_isName
  have hcoordinator := hstorage.inside plan.dir coordinatorFileName coordinatorFileName_isName
  have hproperties : IsFileIn plan.dir connectionParamsFile (plan.dir ++ '/' :: connectionParamsFile) := .inl rfl
  have hrecurring := hplan.recurring
  cases request with
  | once job =>
    have hnone : plan.coordinator? = none := by simpa using hrecurring
    rw [Plan.artifacts, Plan.coordinatorArtifacts, hnone]
    exact .cons hworkflow (.cons hproperties .nil)
  | recurring job =>
    obtain ⟨draft, hsome⟩ := Option.isSome_iff_exists.1 (hrecurring.2 ⟨job, rfl⟩)
    rw [Plan.artifacts, Plan.coordinatorArtifacts, hsome]
    exact .cons hworkflow (.cons hcoordinator (.cons hproperties .nil))

/-- A submission ends as its steps end: with the failure of one of them, or with the job of the last stage. -/
theorem Service.submit_outcome [ZoneDatabase] {service : Service σ τ} {org : Text} {now : LocalTime}
    {suffixes : List Text} {request : JobRequest} {s s' : ServiceState σ τ} {result : Except SubmissionFailure (Stage σ)}
    (h : runOn (service.advanceBy org now suffixes 8 (.received request)) s = (result, s')) :
    (∃ e, result = .error e ∧ runOn (service.submit org now suffixes request) s = (.error e, s')) ∨
      ∃ stage job, result = .ok stage ∧ stage.job? = some job ∧
        runOn (service.submit org now suffixes request) s = (.ok job, s') := by
  have hsubmit := congrArg (runOn · s) (service.submit_eq_advance org now suffixes request)
  rw [Attempt.runOn_map, Attempt.runOn_map, h] at hsubmit
  rcases hrun : runOn (service.submit org now suffixes request) s with ⟨e | job, s''⟩
  · rw [hrun] at hsubmit
    cases result with
    | error e' =>
      cases hsubmit
      exact .inl ⟨e, rfl, rfl⟩
    | ok stage => cases hsubmit
  · rw [hrun] at hsubmit
    cases result with
    | error e => cases hsubmit
    | ok stage =>
      obtain ⟨hjob, rfl⟩ := Prod.mk.inj hsubmit
      exact .inr ⟨stage, job, rfl, Except.ok.inj hjob, rfl⟩

/-- **What a submission leaves behind.**  If the request breaks rules, nothing: workspace, reservations, files and engine
are as before.  If it fails otherwise, a beginning of the artifacts of its plan, each a new file, and nothing has changed
that was there before; the engine has been called only if all artifacts are written, and once.  If it succeeds, all
artifacts are written, and the engine has been called once.  The artifacts are the files of the request, in the directory
of its workflow. -/
theorem Service.submit_leaves [ZoneDatabase] {service : Service σ τ} {view : FileView σ κ}
    (hstorage : service.storage.CreatesOrFails view) (org : Text) (now : LocalTime) (suffixes : List Text)
    (request : JobRequest) (s : ServiceState σ τ) :
    let outcome := runOn (service.submit org now suffixes request) s
    (∀ errors, outcome.1 = .error (.rejected errors) → outcome.2 = s) ∧
    (∀ e, outcome.1 = .error e → ∃ written calls, service.Leaves view s written calls outcome.2 ∧
      (written = [] ∧ calls = [] ∨ ∃ plan, service.Plans org now suffixes request s plan ∧
        written <+: plan.artifacts view.pathIn org ∧
        (calls = [] ∨ written = plan.artifacts view.pathIn org ∧ calls = [plan.submission view.pathIn]))) ∧
    (∀ job, outcome.1 = .ok job → ∃ plan, service.Plans org now suffixes request s plan ∧ job.jobId = plan.jobId ∧
      (runOn (service.engine.submit (plan.submission view.pathIn)) s.engine).1 = .ok job.engineJobId ∧
      service.Leaves view s (plan.artifacts view.pathIn org) [plan.submission view.pathIn] outcome.2) ∧
    (∀ plan, service.Plans org now suffixes request s plan →
      List.Forall₂ (fun name file => IsFileIn plan.dir name file.1) request.artifactNames
        (plan.artifacts view.pathIn org)) := by
  intro outcome
  have hstart : (Stage.received request).Accounts service view org now suffixes request s s := ⟨rfl, rfl⟩
  have hrun := advanceBy_accounts hstorage 8 hstart
  rcases hsteps : runOn (service.advanceBy org now suffixes 8 (.received request)) s with ⟨result, s'⟩
  rw [hsteps] at hrun
  rcases Service.submit_outcome hsteps with ⟨e, rfl, hsubmit⟩ | ⟨stage, job, rfl, hjob, hsubmit⟩
  · have houtcome : outcome = (.error e, s') := hsubmit
    rw [houtcome]
    exact ⟨fun errors he => hrun.rejected errors (Except.error.inj he), fun _ _ => hrun.left, fun _ hok => (by cases hok),
      fun _ hplan => hplan.artifacts_inside hstorage⟩
  · have houtcome : outcome = (.ok job, s') := hsubmit
    rw [houtcome]
    refine ⟨fun _ he => (by cases he), fun _ he => (by cases he), ?_, fun _ hplan => hplan.artifacts_inside hstorage⟩
    rintro _ ⟨⟩
    cases stage with
    | started plan done =>
      cases hjob
      exact ⟨plan, hrun⟩
    | _ => cases hjob

/-- A service on a shelf that holds a file already, with an engine whose calls are kept. -/
def keepingService : Service Shelf (Ledger × List Submission) where
  storage := shelfStorage
  engine := ledgerEngine.recorded
  metastore := "jdbc:metastore".toList

/-- The shelf takes so many files more, if that is limited. -/
def keptState (writesLeft : Option Nat) : ServiceState Shelf (Ledger × List Submission) where
  reserved := ⟨"160309-140507".toList, ["/org/acme/oozie-jobs/daily-160309-140507".toList]⟩
  storage := { files := [("/org/acme/notes".toList, "kept".toList)], plan := { writesLeft } }
  engine := ({}, [])

def dailyRequest (targetDir : String) : JobRequest := .once {
  name := "daily".toList
  spec := {
    jdbcUri := "jdbc:db".toList
    table := "orders".toList
    username := "etl".toList
    importMode := "append".toList
    targetDir := targetDir.toList } }

/-- Three submissions: one that is rejected, one that fails when the shelf is full behind the workflow, and one that
succeeds. -/
theorem Service.submit_leaves_daily :
    let outcome (writesLeft : Option Nat) (targetDir : String) := runOn
      (keepingService.submit "acme".toList (.sample 7) ["aB".toList] (dailyRequest targetDir)) (keptState writesLeft)
    let dir := "/org/acme/oozie-jobs/daily-160309-140507-aB".toList
    let call : Submission := ⟨.workflow, dir, "/org/acme/sqoop-imports/daily-160309-140507-aB".toList⟩
    ((outcome none "../other").1 =
        .error (.rejected [(Violation.straySegment "targetDir".toList "../other".toList).report]) ∧
      (outcome none "../other").2 = keptState none) ∧
    ((outcome (some 1) "").1 = .error (.storage .quotaExceeded) ∧
      (outcome (some 1) "").2.storage.files.map Prod.fst =
        ["/org/acme/notes".toList, dir ++ '/' :: workflowFileName] ∧
      (outcome (some 1) "").2.engine.2 = [] ∧
      ∃ written calls, keepingService.Leaves Shelf.view (keptState (some 1)) written calls (outcome (some 1) "").2) ∧
    (outcome none "").1 = .ok ⟨"daily-160309-140507-aB".toList, "0000001-oozie".toList⟩ ∧
      (outcome none "").2.storage.files.map Prod.fst =
        ["/org/acme/notes".toList, dir ++ '/' :: workflowFileName, dir ++ '/' :: connectionParamsFile] ∧
      (outcome none "").2.engine.2 = [call] ∧
      ∃ plan : Plan, plan.jobId = "daily-160309-140507-aB".toList ∧ keepingService.Leaves Shelf.view (keptState none)
        (plan.artifacts Shelf.view.pathIn "acme".toList) [plan.submission Shelf.view.pathIn] (outcome none "").2 := by
  intro outcome dir call
  have hstorage : keepingService.storage.CreatesOrFails Shelf.view := shelfStorage_createsOrFails
  have hleaves (writesLeft : Option Nat) (targetDir : String) := Service.submit_leaves hstorage "acme".toList (.sample 7)
    ["aB".toList] (dailyRequest targetDir) (keptState writesLeft)
  have hrejected : (outcome none "../other").1 =
      .error (.rejected [(Violation.straySegment "targetDir".toList "../other".toList).report]) := by decide
  obtain ⟨hfull, hfiles, hengine⟩ : (outcome (some 1) "").1 = .error (.storage .quotaExceeded) ∧
      (outcome (some 1) "").2.storage.files.map Prod.fst =
        ["/org/acme/notes".toList, dir ++ '/' :: workflowFileName] ∧
      (outcome (some 1) "").2.engine.2 = [] := by
    decide +kernel
  obtain ⟨hstarted, hfiles', hengine'⟩ :
      (outcome none "").1 = .ok ⟨"daily-160309-140507-aB".toList, "0000001-oozie".toList⟩ ∧
      (outcome none "").2.storage.files.map Prod.fst =
        ["/org/acme/notes".toList, dir ++ '/' :: workflowFileName, dir ++ '/' :: connectionParamsFile] ∧
      (outcome none "").2.engine.2 = [call] := by
    decide +kernel
  obtain ⟨written, calls, hleft, -⟩ := (hleaves (some 1) "").2.1 _ hfull
  obtain ⟨plan, -, hid, -, hmade⟩ := (hleaves none "").2.2.1 _ hstarted
  exact ⟨⟨hrejected, (hleaves none "../other").1 _ hrejected⟩,
    ⟨hfull, hfiles, hengine, written, calls, hleft⟩, hstarted, hfiles', hengine', plan, hid.symm, hmade⟩

end ImportDispatch

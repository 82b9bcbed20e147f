import ImportDispatch.Proofs.Coordinator.Document
import ImportDispatch.Proofs.Service.Leavings
import ImportDispatch.Proofs.Storage.Confinement
import ImportDispatch.Proofs.Workflow.Reading
import ImportDispatch.Zone.Selection
/-!
# The one directory of a job

Where a job lies is said in many places: in the paths that are returned for its definitions, in the document of its
coordinator, in its workflow, which asks for a flag file and makes it, and to the engine.  None of them is given the
directory as it was chosen; it is joined to names and cut off from them again.  On disk that comes out the same
everywhere (`DiskStorage.one_directory`), because no directory of a workflow ends in a slash
(`DiskLayout.workflowDir_open`).

What a submission does is put together from what its steps do (`Service.LeavesOnly`).
-/
namespace ImportDispatch

open Attempt (runOn)

/-! ## Directories and the files in them -/

namespace DiskLayout

theorem workflowDir_open {home id appDir : Text} (hid : IsName id) (hnames : ∀ s ∈ belowJob appDir, IsName s) :
    workflowDir home id appDir ≠ [] ∧ (workflowDir home id appDir).getLast? ≠ some '/' := by
  have halong : Along home (jobsFolder :: id :: belowJob appDir) (workflowDir home id appDir) :=
    workflowDir_along hid hnames
  obtain ⟨front, last, hlast⟩ : ∃ front last, jobsFolder :: id :: belowJob appDir = front ++ [last] :=
    (List.eq_nil_or_concat' _).resolve_left (List.cons_ne_nil _ _)
  have hname : IsName last := names_of_job hid hnames last (by rw [hlast]; simp)
  have hdir : workflowDir home id appDir = opening home ++ closed front ++ last := by
    rw [Along, hlast, closed_append, closed_cons, closed_nil] at halong
    exact (List.append_left_inj ['/']).1 (by simpa using halong)
  rw [hdir]
  exact ⟨List.append_ne_nil_of_right_ne_nil _ hname.ne_nil, getLast_of_name hname _⟩

end DiskLayout

/-! ## Flags -/

/-- The flag file that a node asks for or makes. -/
def Node.flag? : Node → Option Text
  | .decision _ path _ _ => some path
  | .touch _ path _ => some path
  | _ => none

def Workflow.flags (workflow : Workflow) : List Text := workflow.nodes.filterMap Node.flag?

theorem flags_recurring (name flagPath : Text) (overwrite : Bool) (save run : CommandLine) :
    (recurringDraft name flagPath overwrite save run).nodes.filterMap Node.flag? = [flagPath, flagPath] := by
  cases overwrite <;> rfl

/-- The directories of the flag files that the workflow of a request has to do with, if it lies in `dir`. -/
def JobRequest.flagDirs (dir : Text) : JobRequest → List Text
  | once _ => []
  | recurring _ => [dir, dir]

/-! ## Steps and what they leave behind -/

section Steps

variable {σ τ κ α β : Type}

/-- Whatever state a step starts from: the files that it leaves behind are of one kind, its calls of the engine are of
one kind, and so is its result, if it has one. -/
def Service.LeavesOnly (service : Service σ τ) (view : FileView σ κ) (file : Text × Text → Prop)
    (call : Submission → Prop) (step : Service.Step σ τ α) (result : α → Prop) : Prop :=
  ∀ s, ∃ written calls, service.Leaves view s written calls (runOn step s).2 ∧ (∀ f ∈ written, file f) ∧
    (∀ c ∈ calls, call c) ∧ ∀ a, (runOn step s).1 = .ok a → result a

namespace Service.LeavesOnly

variable {service : Service σ τ} {view : FileView σ κ} {file : Text × Text → Prop} {call : Submission → Prop}
  {result : α → Prop} {last : β → Prop}

theorem pure {a : α} (h : result a) : service.LeavesOnly view file call (Pure.pure a) result := fun s =>
  ⟨[], [], .refl s, by simp, by simp, by rintro _ ⟨⟩; exact h⟩

theorem ofExcept {ε : Type} {wrap : ε → SubmissionFailure} {outcome : Except ε α} (h : ∀ a, outcome = .ok a → result a) :
    service.LeavesOnly view file call (Attempt.ofExcept wrap outcome) result := fun s =>
  ⟨[], [], .refl s, by simp, by simp, fun a ha => h a (Attempt.mapError_eq_ok ha)⟩

theorem lift {outcome : Except SubmissionFailure α} (h : ∀ a, outcome = .ok a → result a) :
    service.LeavesOnly view file call (liftM outcome) result := fun s => ⟨[], [], .refl s, by simp, by simp, h⟩

theorem bind {x : Service.Step σ τ α} {f : α → Service.Step σ τ β} (hx : service.LeavesOnly view file call x result)
    (hf : ∀ a, result a → service.LeavesOnly view file call (f a) last) :
    service.LeavesOnly view file call (x >>= f) last := by
  intro s
  obtain ⟨written, calls, hleaves, hwritten, hcalls, hresult⟩ := hx s
  rw [Attempt.runOn_bind]
  rcases hrun : runOn x s with ⟨e | a, s₁⟩
  · rw [hrun] at hleaves
    exact ⟨written, calls, hleaves, hwritten, hcalls, fun _ h => nomatch h⟩
  · rw [hrun] at hleaves hresult
    obtain ⟨more, later, hleaves', hmore, hlater, hlast⟩ := hf a (hresult a rfl) s₁
    exact ⟨written ++ more, calls ++ later, hleaves.trans hleaves', List.forall_mem_append.2 ⟨hwritten, hmore⟩,
      List.forall_mem_append.2 ⟨hcalls, hlater⟩, hlast⟩

theorem write {step : Attempt StorageFailure σ α} {f : Text × Text}
    (hcreates : ∀ s, view.Creates s f (runOn step s)) (hfile : file f)
    (hresult : ∀ s a, (runOn step s).1 = .ok a → result a) :
    service.LeavesOnly view file call (Service.inStorage step) result := by
  intro s
  have hwritten : ∀ outcome : Except SubmissionFailure α, ∀ g ∈ FileView.written f outcome, file g
    | .ok _ => List.forall_mem_singleton.2 hfile
    | .error _ => fun _ h => nomatch h
  exact ⟨_, [], Service.creates_leaves (hcreates s.storage) rfl, hwritten _, by simp,
    fun a ha => hresult s.storage a (Attempt.mapError_eq_ok ha)⟩

theorem submit {submission : Submission} (hcall : call submission) :
    service.LeavesOnly view file call (Service.inEngine (service.engine.submit submission)) fun _ => True := fun s =>
  ⟨[], [submission], ⟨.refl s.storage, rfl⟩, by simp, by simpa using hcall, fun _ _ => trivial⟩

end Service.LeavesOnly

/-- The rest of a submission, once it has its id. -/
def Service.carryOut [ZoneDatabase] (service : Service σ τ) (workspace : Workspace σ) (org id : Text)
    (request : JobRequest) : Service.Step σ τ StartedJob := do
  let plan ← service.plan workspace id request
  let appDir ← writeWorkflow workspace plan
  let appDir ← writeCoordinator workspace plan appDir
  writeProperties workspace plan org
  service.start plan appDir

theorem Service.reserveId_ok {workspace : Workspace σ} {now : LocalTime} {suffixes : List Text} {name id : Text}
    {s s' : ServiceState σ τ} (h : runOn (reserveId workspace now suffixes name) s = (.ok id, s')) :
    runOn (JobId.reserve workspace now suffixes name) (s.reserved, s.storage) =
      (.ok id, (runOn (JobId.reserve workspace now suffixes name) (s.reserved, s.storage)).2) :=
  Prod.ext (Attempt.mapError_eq_ok (congrArg Prod.fst h)) rfl

theorem Service.submit_carryOut [ZoneDatabase] {service : Service σ τ} {org : Text} {now : LocalTime}
    {suffixes : List Text} {request normal : JobRequest} {workspace : Workspace σ} {id : Text}
    {s s₁ s₂ : ServiceState σ τ} (haccept : service.accept request = .ok normal)
    (hopen : runOn (service.openWorkspace org) s = (.ok workspace, s₁))
    (hreserve : runOn (reserveId workspace now suffixes normal.name) s₁ = (.ok id, s₂)) :
    runOn (service.submit org now suffixes request) s = runOn (service.carryOut workspace org id normal) s₂ := by
  simp only [Service.submit, Service.carryOut, Attempt.runOn_bind, Attempt.runOn_lift, haccept, hopen, hreserve]

end Steps

/-! ## Everything in one directory -/

/-- A file of the request that lies in the directory `dir`, and says so where it says where it lies. -/
structure JobRequest.FiledIn (request : JobRequest) (dir : Text) (file : Text × Text) : Prop where
  named : ∃ name ∈ request.artifactNames, file.1 = dir ++ '/' :: name
  directory : directoryOf file.1 = dir
  workflow : file.1 = dir ++ '/' :: workflowFileName →
    ∃ workflow, Workflow.read file.2 = some workflow ∧ workflow.flags.map directoryOf = request.flagDirs dir
  coordinator : file.1 = dir ++ '/' :: coordinatorFileName →
    ∃ coordinator, Coordinator.read file.2 = some coordinator ∧ coordinator.appDir = dir

theorem JobRequest.isName_of_artifact {request : JobRequest} {name : Text} (h : name ∈ request.artifactNames) :
    IsName name := by
  have hall : ∀ name ∈ [workflowFileName, coordinatorFileName, connectionParamsFile], IsName name := by
    simpa using ⟨workflowFileName_isName, coordinatorFileName_isName, connectionParamsFile_isName⟩
  cases request with
  | once job =>
    refine hall name ?_
    rcases List.mem_cons.1 h with rfl | h
    · exact List.mem_cons_self
    · exact List.mem_cons_of_mem _ (List.mem_cons_of_mem _ h)
  | recurring job => exact hall name h

/-- What a file has to say depends on its name. -/
theorem JobRequest.filedIn {request : JobRequest} {dir name content : Text} (hdir : dir ≠ [])
    (hname : name ∈ request.artifactNames)
    (hworkflow : name = workflowFileName → ∃ workflow, Workflow.read content = some workflow ∧
      workflow.flags.map directoryOf = request.flagDirs dir)
    (hcoordinator : name = coordinatorFileName → ∃ coordinator, Coordinator.read content = some coordinator ∧
      coordinator.appDir = dir) : request.FiledIn dir (dir ++ '/' :: name, content) := by
  have hsame {other : Text} (h : dir ++ '/' :: name = dir ++ '/' :: other) : name = other :=
    (List.cons.inj (List.append_cancel_left h)).2
  exact ⟨⟨name, hname, rfl⟩, directoryOf_file hdir (isName_of_artifact hname), fun h => hworkflow (hsame h),
    fun h => hcoordinator (hsame h)⟩

namespace DiskStorage

variable {τ : Type} {service : Service DiskState τ} {home org id : Text} {request : JobRequest} {plan : Plan}
  {call : Submission → Prop}

theorem flags_of_plan {workspace : Workspace DiskState} (hplan : service.plan workspace id request = .ok plan)
    (hdir : plan.dir ≠ []) : plan.workflow.flags.map directoryOf = request.flagDirs plan.dir := by
  have hplan := Attempt.mapError_eq_ok hplan
  cases request with
  | once job =>
    obtain ⟨command, rfl⟩ := Plan.once_ok hplan
    rfl
  | recurring job =>
    obtain ⟨save, run, rfl⟩ := Plan.recurring_ok hplan
    rw [Workflow.flags, flags_recurring, List.map_cons, List.map_cons, flagPath, directoryOf_file hdir flagName_isName]
    rfl

section

variable (hplan : service.plan (workspaceAt home) id request = .ok plan) (hne : plan.dir ≠ [])
  (hlast : plan.dir.getLast? ≠ some '/')

include hne hlast in
/-- A definition is put into the directory of the plan, and the directory is found again in the path that is returned. -/
theorem addDefinition_filed {name document : Text} (hname : name ∈ request.artifactNames)
    (hfiled : request.FiledIn plan.dir (plan.dir ++ '/' :: name, document)) :
    service.LeavesOnly view (request.FiledIn plan.dir) call
      (do return directoryOf (← Service.inStorage ((workspaceAt home).addDefinition plan.dir name document)))
      (· = plan.dir) := by
  have hworkspace := workspaceAt_createsOrFails home
  have hjoin : joinPath plan.dir name = plan.dir ++ '/' :: name :=
    joinPath_open hne hlast (JobRequest.isName_of_artifact hname).head
  have hwrite : service.LeavesOnly view (request.FiledIn plan.dir) call
      (Service.inStorage ((workspaceAt home).addDefinition plan.dir name document))
      fun path => directoryOf path = plan.dir := by
    refine .write (hworkspace.addDefinition plan.dir name document) ?_ fun s path hpath => ?_
    · have hpath : view.pathIn plan.dir name = plan.dir ++ '/' :: name := hjoin
      rw [hpath]
      exact hfiled
    · have hpath : path = joinPath plan.dir name := hworkspace.path _ _ _ _ _ hpath
      rw [hpath, hjoin]
      exact hfiled.directory
  exact hwrite.bind fun path hpath => .pure hpath

include hplan hne hlast

theorem writeWorkflow_filed : service.LeavesOnly view (request.FiledIn plan.dir) call
    (Service.writeWorkflow (workspaceAt home) plan) (· = plan.dir) := by
  have hname : workflowFileName ∈ request.artifactNames := by cases request <;> exact List.mem_cons_self
  exact addDefinition_filed hne hlast hname (JobRequest.filedIn hne hname
    (fun _ => ⟨plan.workflow, plan.workflow.read_written, flags_of_plan hplan hne⟩) fun h => absurd h (by decide))

/-- The coordinator, if there is one, tells the directory that it is given. -/
theorem writeCoordinator_filed [ZoneDatabase] : service.LeavesOnly view (request.FiledIn plan.dir) call
    (Service.writeCoordinator (workspaceAt home) plan plan.dir) (· = plan.dir) := by
  unfold Service.writeCoordinator
  cases hcoordinator : plan.coordinator? with
  | none => exact .pure rfl
  | some draft =>
    obtain ⟨job, rfl⟩ : ∃ job, request = .recurring job :=
      (Service.plan_place hplan).2.2.2.1 (by rw [hcoordinator]; rfl)
    refine .bind (.ofExcept fun coordinator built => built) fun coordinator built => ?_
    obtain ⟨_, appDir, _, _, _, _, -, happDir, -, -, -, -, rfl⟩ := CoordinatorDraft.build_eq_ok.1 built
    obtain rfl : plan.dir = appDir := Option.some.inj happDir
    have hname : coordinatorFileName ∈ (JobRequest.recurring job).artifactNames :=
      List.mem_cons_of_mem _ List.mem_cons_self
    exact addDefinition_filed hne hlast hname (JobRequest.filedIn hne hname (fun h => absurd h (by decide))
      fun _ => ⟨_, Coordinator.read_written _, rfl⟩)

omit hplan hlast in
theorem writeProperties_filed : service.LeavesOnly view (request.FiledIn plan.dir) call
    (Service.writeProperties (workspaceAt home) plan org) fun _ => True := by
  have hname : connectionParamsFile ∈ request.artifactNames := by cases request <;> simp [JobRequest.artifactNames]
  exact .write (addFile_creates _ _) (JobRequest.filedIn hne hname (fun h => absurd h (by decide))
    fun h => absurd h (by decide)) fun _ _ _ => trivial

end

/-- All that the rest of a submission leaves behind is about the directory that the workspace has for the id. -/
theorem carryOut_filed [ZoneDatabase] (hid : IsName id) (hnames : ∀ s ∈ DiskLayout.belowJob request.appDir, IsName s) :
    service.LeavesOnly view (request.FiledIn (DiskLayout.workflowDir home id request.appDir))
      (fun call => call.appDir = DiskLayout.workflowDir home id request.appDir)
      (service.carryOut (workspaceAt home) org id request) fun _ => True := by
  refine .bind (.lift fun plan hplan => hplan) fun plan hplan => ?_
  obtain ⟨hne, hlast⟩ : DiskLayout.workflowDir home id request.appDir ≠ [] ∧
      (DiskLayout.workflowDir home id request.appDir).getLast? ≠ some '/' := DiskLayout.workflowDir_open hid hnames
  have hdir : plan.dir = DiskLayout.workflowDir home id request.appDir := (Service.plan_place hplan).2.1
  rw [← hdir] at hne hlast ⊢
  refine .bind (writeWorkflow_filed hplan hne hlast) fun _ happDir => ?_
  rw [happDir]
  refine .bind (writeCoordinator_filed hplan hne hlast) fun _ happDir => ?_
  rw [happDir]
  refine .bind (writeProperties_filed hne) fun _ _ => ?_
  exact .bind (.submit rfl) fun _ _ => .pure trivial

theorem openWorkspace_ok {root : Text} (hdisk : service.storage = diskStorage root) {workspace : Workspace DiskState}
    {s s' : ServiceState DiskState τ} (hopen : runOn (service.openWorkspace org) s = (.ok workspace, s')) :
    workspace = workspaceAt (DiskLayout.home root org) := by
  have hspace := Service.inStorage_ok hopen
  rw [hdisk] at hspace
  exact (runOn_workspace root org s.storage).2 workspace hspace

/-- **All that has to do with a job is in one directory**, the one that the workspace has for its id and for what the
client chose.  It is found in the paths of both definitions, whatever is written and whatever state the disk is in.  And
whatever becomes of the submission: every file that it leaves behind lies there, the coordinator tells it, the workflow
asks for its flag there and makes it there, and the engine is told to start from there. -/
theorem one_directory [ZoneDatabase] {root : Text} (hdisk : service.storage = diskStorage root) {now : LocalTime}
    {suffixes : List Text} (hsuffixes : ∀ x ∈ suffixes, JobId.IsSuffix x) {normal : JobRequest}
    (haccept : service.accept request = .ok normal) {workspace : Workspace DiskState}
    {s s₁ s₂ : ServiceState DiskState τ} (hopen : runOn (service.openWorkspace org) s = (.ok workspace, s₁))
    (hreserve : runOn (Service.reserveId workspace now suffixes normal.name) s₁ = (.ok id, s₂)) :
    let dir := workspace.workflowDir id request.appDir
    (∀ document t path, (runOn (workspace.writeWorkflow dir document) t).1 = .ok path → directoryOf path = dir) ∧
    (∀ document t path, (runOn (workspace.writeCoordinator dir document) t).1 = .ok path → directoryOf path = dir) ∧
    ∃ written calls, service.Leaves view s written calls (runOn (service.submit org now suffixes request) s).2 ∧
      (∀ file ∈ written, request.FiledIn dir file) ∧ ∀ call ∈ calls, call.appDir = dir := by
  intro dir
  have hstorage : service.storage.CreatesOrFails view := hdisk ▸ diskStorage_createsOrFails root
  obtain ⟨hopens, hworkspace⟩ := Service.openWorkspace_leaves hstorage hopen
  have hleaves := hopens.trans (Service.reserveId_leaves (hworkspace _ rfl) hreserve)
  obtain rfl := openWorkspace_ok hdisk hopen
  obtain ⟨hname, happDir⟩ := Service.accept_placed haccept
  have hid : IsName id := (JobId.reserve_ok hsuffixes (Service.reserveId_ok hreserve)).1.isName hname
  have hsame : normal.appDir = request.appDir := (Service.accept_appDir haccept).1
  have hnames := DiskLayout.names_belowJob happDir
  have hopened : dir ≠ [] ∧ dir.getLast? ≠ some '/' := DiskLayout.workflowDir_open hid (hsame ▸ hnames)
  have hdirectory {name document path : Text} {t : DiskState} (hname : IsName name)
      (h : (runOn (addDefinition dir name document) t).1 = .ok path) : directoryOf path = dir := by
    rw [(workspaceAt_createsOrFails (DiskLayout.home root org)).path _ _ _ _ _ h]
    show directoryOf (joinPath dir name) = dir
    rw [joinPath_open hopened.1 hopened.2 hname.head, directoryOf_file hopened.1 hname]
  refine ⟨fun _ _ _ => hdirectory workflowFileName_isName, fun _ _ _ => hdirectory coordinatorFileName_isName, ?_⟩
  have hfiled : service.LeavesOnly view (normal.FiledIn dir) (fun call => call.appDir = dir)
      (service.carryOut (workspaceAt (DiskLayout.home root org)) org id normal) fun _ => True := by
    have hdir : dir = DiskLayout.workflowDir (DiskLayout.home root org) id normal.appDir := by
      rw [hsame]
      rfl
    rw [hdir]
    exact carryOut_filed hid hnames
  obtain ⟨written, calls, hrest, hwritten, hcalls, -⟩ := hfiled s₂
  rw [Service.submit_carryOut haccept hopen hreserve]
  obtain ⟨-, rfl⟩ := Service.accept_eq_ok.1 haccept
  refine ⟨written, calls, hleaves.trans hrest, fun file hfile => ?_, hcalls⟩
  have hfiled := hwritten file hfile
  cases request <;> exact ⟨hfiled.named, hfiled.directory, hfiled.workflow, hfiled.coordinator⟩

/-- A recurring request with a backslash in its path and slashes at the end. -/
def slashedRequest : JobRequest := .recurring {
  name := "daily sales".toList
  appDir := "flows\\app//".toList
  spec := {
    jdbcUri := "jdbc:mysql://db:3306/sales".toList
    table := "orders".toList
    importMode := "append".toList
    checkColumn := "id".toList }
  schedule := ⟨.sample 0, .sample 59, "UTC".toList, ⟨"hours".toList, 1⟩⟩ }

def slashedDir : Text := "data/org/acme/oozie-jobs/daily_sales-160309-140507/flows\\app".toList

def localService : Service DiskState Unit where
  storage := diskStorage "data".toList
  engine := ⟨fun _ => return "engine-job".toList⟩
  metastore := "jdbc:metastore".toList

/-- An empty disk, on which the workspace of one organization was asked for. -/
def emptyDisk : ServiceState DiskState Unit := { storage := ⟨⟨[], []⟩, ["acme".toList]⟩, engine := () }

/-- The same service, with an engine that keeps its calls. -/
def recordingService : Service DiskState (Unit × List Submission) where
  storage := diskStorage "data".toList
  engine := localService.engine.recorded
  metastore := "jdbc:metastore".toList

def unaskedState : ServiceState DiskState (Unit × List Submission) where
  storage := emptyDisk.storage
  engine := ((), [])

theorem one_directory_slashedRequest :
    let outcome := runOn (recordingService.submit "acme".toList (.sample 7) [] slashedRequest) unaskedState
    (runOn ((workspaceAt "data/org/acme".toList).writeWorkflow slashedDir []) unaskedState.storage).1 =
        .ok (slashedDir ++ "/workflow.xml".toList) ∧
      directoryOf (slashedDir ++ "/workflow.xml".toList) = slashedDir ∧
      outcome.1 = .ok ⟨"daily_sales-160309-140507".toList, "engine-job".toList⟩ ∧
      (outcome.2.storage.tree.filesIn slashedDir).map Prod.fst =
        [[workflowFileName], [coordinatorFileName], [connectionParamsFile]] ∧
      ∃ written, recordingService.Leaves view unaskedState written [⟨.coordinator, slashedDir,
          "data/org/acme/sqoop-imports/daily_sales-160309-140507".toList⟩] outcome.2 ∧
        ∀ file ∈ written, slashedRequest.FiledIn slashedDir file := by
  intro outcome
  have haccept : recordingService.accept slashedRequest = .ok (slashedRequest.normal [] fallbackUsername) :=
    Service.accept_eq_ok.2 ⟨by decide +kernel, rfl⟩
  have hopen : runOn (recordingService.openWorkspace "acme".toList) unaskedState =
      (.ok (workspaceAt "data/org/acme".toList), unaskedState) := rfl
  have hname : (slashedRequest.normal [] fallbackUsername).name = "daily_sales".toList := by decide
  have hanswer : (runOn (Service.reserveId (workspaceAt "data/org/acme".toList) (.sample 7) []
      "daily_sales".toList) unaskedState).1 = .ok "daily_sales-160309-140507".toList := by decide +kernel
  have hreserve := Prod.ext (y := (Except.ok "daily_sales-160309-140507".toList, _)) hanswer rfl
  rw [← hname] at hreserve
  have hdir : DiskLayout.workflowDir "data/org/acme".toList "daily_sales-160309-140507".toList slashedRequest.appDir =
      slashedDir := by decide +kernel
  have hdisk : recordingService.storage = diskStorage "data".toList := rfl
  obtain ⟨hworkflow, -, hsubmit⟩ := one_directory hdisk (by simp) haccept hopen hreserve
  have hdir : (workspaceAt "data/org/acme".toList).workflowDir "daily_sales-160309-140507".toList
      slashedRequest.appDir = slashedDir := hdir
  rw [hdir] at hworkflow hsubmit
  have hpath : (runOn ((workspaceAt "data/org/acme".toList).writeWorkflow slashedDir []) unaskedState.storage).1 =
      .ok (slashedDir ++ "/workflow.xml".toList) := by decide +kernel
  obtain ⟨hstarted, hfiles, hengine⟩ : outcome.1 = .ok ⟨"daily_sales-160309-140507".toList, "engine-job".toList⟩ ∧
      (outcome.2.storage.tree.filesIn slashedDir).map Prod.fst =
        [[workflowFileName], [coordinatorFileName], [connectionParamsFile]] ∧
      outcome.2.engine.2 =
        [⟨.coordinator, slashedDir, "data/org/acme/sqoop-imports/daily_sales-160309-140507".toList⟩] := by
    decide +kernel
  obtain ⟨written, calls, hleaves, hfiled, -⟩ := hsubmit
  -- the engine has kept the calls, so the state tells them
  have hkept : outcome.2.engine.2 = calls :=
    congrArg Prod.snd (hleaves.engine.trans (localService.engine.recorded_afterCalls calls () []))
  rw [← hkept, hengine] at hleaves
  exact ⟨hpath, hworkflow _ _ _ hpath, hstarted, hfiles, written, hleaves, hfiled⟩

end DiskStorage

end ImportDispatch

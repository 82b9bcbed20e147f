import ImportDispatch.Proofs.Service.Settled
import ImportDispatch.Proofs.Service.Verdicts
/-!
# One step of a submission among others

What one step does is said twice: for all other submissions, which stay settled (`Quiet`), and for the submission
itself, whose next stage fits what it has done (`Stage.Fits`).  There is one theorem for each stage, and together they
make `advance_steps`.  What the step asks of the engine and of the disk is told by the stage: the job that is handed over
(`advance_hands`), and the file that cannot be created (`advance_createFailed`).
-/
namespace ImportDispatch

open Attempt (runOn)
open DiskLayout (workflowDir Holds GrowsFor)
open Service (advance)

/-- The tree is rooted, and an organization whose workspace was asked for has its directory. -/
structure DiskState.Sound (root org : Text) (s : DiskState) : Prop where
  rooted : s.tree.Rooted
  opened : s.opened.elem org = true → ∃ place, s.tree.Leads (DiskLayout.home root org) place

def ServiceState.Settles {τ : Type} (first : Int) (last : LocalTime) (root org : Text)
    (state : ServiceState DiskState τ) (id dir : Text) (written : List (Text × Text)) : Prop :=
  Settled first last state.reserved state.storage.tree (DiskLayout.home root org) id dir written

/-- What is in hand at a stage goes together. -/
def Stage.Linked (home : Text) : Stage DiskState → Prop
  | .received _ => True
  | .accepted request => request.Placed
  | .opened request workspace => request.Placed ∧ workspace = DiskStorage.workspaceAt home
  | .named _ workspace _ | .planned workspace _ => workspace = DiskStorage.workspaceAt home
  | .described workspace plan appDir | .scheduled workspace plan appDir =>
    workspace = DiskStorage.workspaceAt home ∧ appDir = plan.dir
  | .complete plan appDir => appDir = plan.dir
  | .started _ _ => True

/-- A stage fits a state: what it has in hand, and what it has written. -/
structure Stage.Fits [ZoneDatabase] {τ : Type} (first : Int) (last : LocalTime) (root org : Text)
    (state : ServiceState DiskState τ) (stage : Stage DiskState) : Prop where
  linked : stage.Linked (DiskLayout.home root org)
  ready : ∀ request workspace, stage = .opened request workspace →
    ∃ place, state.storage.tree.Leads (DiskLayout.home root org) place
  settled : ∀ id dir, stage.seat? = some (id, dir) → state.Settles first last root org id dir (stage.written org)

/-- A step of the submission with an id, if it has one, leaves all others as they are. -/
structure Quiet {τ : Type} (first : Int) (last now : LocalTime) (root org : Text) (own? : Option Text)
    (state state' : ServiceState DiskState τ) : Prop where
  sound : state'.storage.Sound root org
  leads : (∃ place, state.storage.tree.Leads (DiskLayout.home root org) place) →
    ∃ place, state'.storage.tree.Leads (DiskLayout.home root org) place
  others : ∀ id dir written, own? ≠ some id → state.Settles first last root org id dir written →
    state'.Settles first now root org id dir written

/-- A step leads on: the next stage fits, and if it is the first with an id, no other submission has this id. -/
structure Advances [ZoneDatabase] {τ : Type} (first : Int) (last now : LocalTime) (root org : Text)
    (stage : Stage DiskState) (state : ServiceState DiskState τ) (result : Except SubmissionFailure (Stage DiskState))
    (state' : ServiceState DiskState τ) : Prop where
  quiet : Quiet first last now root org (stage.seat?.map Prod.fst) state state'
  ok : ∀ stage', result = .ok stage' → stage'.Fits first now root org state'
  failed : ∀ e, result = .error e → stage.Fits first now root org state'
  fresh : ∀ stage' id dir, result = .ok stage' → stage'.seat? = some (id, dir) → stage.seat? ≠ some (id, dir) →
    ∀ other dir' written, state.Settles first last root org other dir' written → other ≠ id

variable [ZoneDatabase] {τ : Type} {first : Int} {last now : LocalTime} {root org : Text} {suffixes : List Text}
  {service : Service DiskState τ} {state state' : ServiceState DiskState τ}
  {result : Except SubmissionFailure (Stage DiskState)}

theorem Stage.Fits.of_seat {stage : Stage DiskState} {id dir : Text} (hlinked : stage.Linked (DiskLayout.home root org))
    (hseat : stage.seat? = some (id, dir))
    (hsettled : state.Settles first last root org id dir (stage.written org)) :
    stage.Fits first last root org state where
  linked := hlinked
  ready _ _ hs := by
    rw [hs] at hseat
    cases hseat
  settled id' dir' hs := by
    rw [hseat] at hs
    cases hs
    exact hsettled

theorem Advances.error {stage : Stage DiskState} {e : SubmissionFailure}
    (hquiet : Quiet first last now root org (stage.seat?.map Prod.fst) state state')
    (hfits : stage.Fits first now root org state') : Advances first last now root org stage state (.error e) state' :=
  ⟨hquiet, fun _ ho => (by cases ho), fun _ _ => hfits, fun _ _ _ ho => (by cases ho)⟩

theorem Advances.on {stage stage' : Stage DiskState}
    (hquiet : Quiet first last now root org (stage.seat?.map Prod.fst) state state')
    (hfits : stage'.Fits first now root org state') (hseat : stage'.seat? = stage.seat?) :
    Advances first last now root org stage state (.ok stage') state' where
  quiet := hquiet
  ok _ ho := by cases ho; exact hfits
  failed _ he := by cases he
  fresh _ id dir ho hs hne := by
    cases ho
    exact absurd (hseat ▸ hs) hne

/-! ## Steps that leave the storage alone -/

omit [ZoneDatabase] in
theorem Quiet.still (hsound : state.storage.Sound root org) (hstep : now.before last = false)
    (hreserved : state'.reserved = state.reserved) (hstorage : state'.storage = state.storage) {own? : Option Text} :
    Quiet first last now root org own? state state' where
  sound := hstorage ▸ hsound
  leads := by rw [hstorage]; exact id
  others id dir written _ h := by
    unfold ServiceState.Settles at h ⊢
    rw [hreserved, hstorage]
    exact h.still hstep

theorem Stage.Fits.still {stage : Stage DiskState} (h : stage.Fits first last root org state)
    (hstep : now.before last = false) (hreserved : state'.reserved = state.reserved)
    (hstorage : state'.storage = state.storage) : stage.Fits first now root org state' where
  linked := h.linked
  ready request workspace hs := by rw [hstorage]; exact h.ready request workspace hs
  settled id dir hseat := by
    have := h.settled id dir hseat
    unfold ServiceState.Settles at this ⊢
    rw [hreserved, hstorage]
    exact this.still hstep

theorem advance_received {request : JobRequest} (hsound : state.storage.Sound root org)
    (hstep : now.before last = false) (hfits : (Stage.received request).Fits first last root org state)
    (h : runOn (advance service org now suffixes (.received request)) state = (result, state')) :
    Advances first last now root org (.received request) state result state' := by
  simp only [advance, Attempt.runOn_bind, Attempt.runOn_lift] at h
  cases haccept : service.accept request with
  | error e =>
    rw [haccept] at h
    cases h
    exact .error (.still hsound hstep rfl rfl) (hfits.still hstep rfl rfl)
  | ok accepted =>
    rw [haccept] at h
    cases h
    exact .on (.still hsound hstep rfl rfl)
      ⟨Service.accept_placed haccept, fun _ _ hs => (by cases hs), fun _ _ hseat => (by cases hseat)⟩ rfl

theorem advance_named {request : JobRequest} {workspace : Workspace DiskState} {id : Text}
    (hsound : state.storage.Sound root org) (hstep : now.before last = false)
    (hfits : (Stage.named request workspace id).Fits first last root org state)
    (h : runOn (advance service org now suffixes (.named request workspace id)) state = (result, state')) :
    Advances first last now root org (.named request workspace id) state result state' := by
  simp only [advance, Attempt.runOn_bind, Attempt.runOn_lift] at h
  cases hplan : service.plan workspace id request with
  | error e =>
    rw [hplan] at h
    cases h
    exact .error (.still hsound hstep rfl rfl) (hfits.still hstep rfl rfl)
  | ok plan =>
    rw [hplan] at h
    cases h
    obtain ⟨hid, hdir, -⟩ := Service.plan_place hplan
    have hseat : (Stage.planned workspace plan).seat? = (Stage.named request workspace id).seat? := by
      simp only [Stage.seat?, hid, hdir]
    have hsettled := (hfits.still hstep rfl rfl).settled plan.jobId plan.dir hseat.symm
    exact .on (.still hsound hstep rfl rfl) (.of_seat hfits.linked rfl hsettled) hseat

theorem advance_complete {plan : Plan} {appDir : Text} (hsound : state.storage.Sound root org)
    (hstep : now.before last = false) (hfits : (Stage.complete plan appDir).Fits first last root org state)
    (h : runOn (advance service org now suffixes (.complete plan appDir)) state = (result, state')) :
    Advances first last now root org (.complete plan appDir) state result state' := by
  simp only [advance, Service.start, Service.inEngine, Attempt.runOn_bind, Attempt.runOn_within] at h
  rcases hrun : runOn (service.engine.submit ⟨plan.kind, appDir, plan.targetDir⟩) state.engine with ⟨answer, engine⟩
  have hquiet : Quiet first last now root org (some plan.jobId) state { state with engine } := by
    apply Quiet.still hsound hstep <;> rfl
  have hafter : (Stage.complete plan appDir).Fits first now root org { state with engine } := hfits.still hstep rfl rfl
  rw [hrun] at h
  cases answer with
  | error e =>
    cases h
    exact .error hquiet hafter
  | ok engineJobId =>
    cases h
    exact .on hquiet (.of_seat trivial rfl (hafter.settled plan.jobId plan.dir rfl)) rfl

theorem advance_started {plan : Plan} {job : StartedJob} (hsound : state.storage.Sound root org)
    (hstep : now.before last = false) (hfits : (Stage.started plan job).Fits first last root org state)
    (h : runOn (advance service org now suffixes (.started plan job)) state = (result, state')) :
    Advances first last now root org (.started plan job) state result state' := by
  cases h
  exact .on (.still hsound hstep rfl rfl) (hfits.still hstep rfl rfl) rfl

/-! ## Opening the workspace -/

theorem advance_accepted {request : JobRequest} (hservice : service.storage = diskStorage root)
    (hsound : state.storage.Sound root org) (hstep : now.before last = false)
    (hfits : (Stage.accepted request).Fits first last root org state)
    (h : runOn (advance service org now suffixes (.accepted request)) state = (result, state')) :
    Advances first last now root org (.accepted request) state result state' := by
  have hworkspace : service.storage.workspace org = DiskStorage.workspace root org := by rw [hservice]; rfl
  simp only [advance, Service.openWorkspace, Service.inStorage, hworkspace, Attempt.runOn_bind,
    Attempt.runOn_within] at h
  rcases hrun : runOn (DiskStorage.workspace root org) state.storage with ⟨answer, storage⟩
  have hopens := DiskStorage.workspace_opens hsound.rooted hsound.opened hrun
  have hquiet : Quiet first last now root org none state { state with storage } := by
    refine ⟨⟨hopens.rooted, hopens.opened⟩, ?_, ?_⟩
    · rintro ⟨place, hleads⟩
      obtain ⟨added, hplus⟩ := hopens.grows
      exact ⟨place, by rw [hplus]; exact hleads.plus added⟩
    · intro id dir written _ hs
      unfold ServiceState.Settles at hs ⊢
      rw [hopens.again hs.leads]
      exact hs.still hstep
  rw [hrun] at h
  cases answer with
  | error e =>
    cases h
    exact .error hquiet ⟨hfits.linked, fun _ _ hs => (by cases hs), fun _ _ hseat => (by cases hseat)⟩
  | ok workspace =>
    cases h
    obtain ⟨hw, hleads⟩ := hopens.ok workspace rfl
    exact .on hquiet ⟨⟨hfits.linked, hw⟩, fun _ _ _ => hleads, fun _ _ hseat => (by cases hseat)⟩ rfl

/-! ## Giving out an id -/

theorem advance_opened {request : JobRequest} {workspace : Workspace DiskState}
    (hsound : state.storage.Sound root org) (hnow : now.InCentury first) (hstep : now.before last = false)
    (hsuffixes : ∀ x ∈ suffixes, JobId.IsSuffix x)
    (hfits : (Stage.opened request workspace).Fits first last root org state)
    (h : runOn (advance service org now suffixes (.opened request workspace)) state = (result, state')) :
    Advances first last now root org (.opened request workspace) state result state' := by
  obtain ⟨hplaced, rfl⟩ := hfits.linked
  obtain ⟨place, hleads⟩ := hfits.ready request _ rfl
  have hask : ∀ path s, (runOn (DiskStorage.isTaken path) s).2 = s := fun path s => by rw [DiskStorage.runOn_isTaken]
  have hgrows := JobId.reserve_grows (DiskStorage.workspaceAt (DiskLayout.home root org)) now suffixes request.name
    state.reserved state.storage
  have hsame := JobId.reserve_state (DiskStorage.workspaceAt (DiskLayout.home root org)) hask now suffixes request.name
    state.reserved state.storage
  simp only [advance, Service.reserveId, Attempt.runOn_bind, Attempt.runOn_within] at h
  rcases hrun : runOn (JobId.reserve (DiskStorage.workspaceAt (DiskLayout.home root org)) now suffixes request.name)
    (state.reserved, state.storage) with ⟨answer, reserved, storage⟩
  rw [hrun] at hgrows hsame h
  obtain rfl : storage = state.storage := hsame
  have hquiet : Quiet first last now root org none state { state with reserved } := by
    refine ⟨hsound, fun hl => hl, ?_⟩
    intro id dir written _ hs
    exact ⟨hs.remembered.later hnow hstep hgrows.1 hgrows.2, hs.holds⟩
  cases answer with
  | error e =>
    cases h
    exact .error hquiet ⟨hfits.linked, fun _ _ _ => ⟨place, hleads⟩, fun _ _ hseat => (by cases hseat)⟩
  | ok id =>
    cases h
    obtain ⟨hid, hfree, hreserved, s₀, htaken⟩ := JobId.reserve_ok hsuffixes hrun
    obtain ⟨hs₀, hempty⟩ := DiskStorage.isTaken_free htaken
    rw [← hs₀] at hempty
    have hgiven : workflowDir (DiskLayout.home root org) id [] ∈ reserved.dirs := by
      rw [hreserved]
      exact List.mem_cons_self
    have hremembered : Remembered first now reserved (DiskLayout.home root org) id :=
      ⟨request.name, now, hplaced.name, hid, hnow, LocalTime.not_before_self now,
        Reservations.remembers_now hgrows.1 hgiven⟩
    have hholds : Holds state.storage.tree (DiskLayout.home root org) place id request.appDir [] :=
      .start hsound.rooted (DiskStorage.home_ne_nil root org) hleads hremembered.isName
        (DiskLayout.names_belowJob hplaced.appDir) hempty
    refine ⟨hquiet, ?_, fun _ he => (by cases he), ?_⟩
    · intro _ ho
      cases ho
      exact .of_seat rfl rfl ⟨hremembered, place, request.appDir, rfl, hholds⟩
    · intro _ _ _ ho hseat _ other dir' written hs
      cases ho
      cases hseat
      exact hs.remembered.ne_of_free hnow hstep hid hfree

/-! ## Writing -/

omit [ZoneDatabase] in
/-- What a step that writes a file does, for its own submission and for all others. -/
theorem settles_write {α : Type} {id dir : Text} {written : List (Text × Text)} {file : Text × Text}
    {answer : Except StorageFailure α} {storage : DiskState} (hstep : now.before last = false)
    (hsettled : state.Settles first last root org id dir written)
    (hwrites : ∀ place appDir, dir = workflowDir (DiskLayout.home root org) id appDir →
      Holds state.storage.tree (DiskLayout.home root org) place id appDir written →
      DiskStorage.Writes (DiskLayout.home root org) place id appDir written file state.storage answer storage) :
    Quiet first last now root org (some id) state { state with storage } ∧
      (∀ a, answer = .ok a →
        ServiceState.Settles first now root org { state with storage } id dir (written ++ [file])) ∧
      ∀ e, answer = .error e → ServiceState.Settles first now root org { state with storage } id dir written := by
  obtain ⟨place, appDir, hdir, hholds⟩ := hsettled.holds
  have h := hwrites place appDir hdir hholds
  obtain ⟨added, hplus, hroot, -⟩ := h.grows
  have hleads : storage.tree.Leads (DiskLayout.home root org) place := by
    rw [hplus]
    exact hholds.leads.plus added
  refine ⟨⟨⟨hroot, fun _ => ⟨place, hleads⟩⟩, fun _ => ⟨place, hleads⟩, ?_⟩, ?_, ?_⟩
  · intro other dir' written' hne hs
    exact (hs.elsewhere hholds.leads h.grows fun he => hne (by rw [he])).still hstep
  · intro a ha
    exact ⟨hsettled.remembered.still hstep, place, appDir, hdir, h.ok a ha⟩
  · intro e he
    exact ⟨hsettled.remembered.still hstep, place, appDir, hdir, h.failed e he⟩

omit [ZoneDatabase] in
theorem settles_addDefinition {id dir file content : Text} {written : List (Text × Text)}
    {answer : Except StorageFailure Text} {storage : DiskState} (hsound : state.storage.Sound root org)
    (hstep : now.before last = false) (hsettled : state.Settles first last root org id dir written)
    (hfile : IsName file)
    (hrun : runOn (DiskStorage.addDefinition dir file content) state.storage = (answer, storage)) :
    Quiet first last now root org (some id) state { state with storage } ∧
      (∀ path, answer = .ok path → directoryOf path = dir ∧
        ServiceState.Settles first now root org { state with storage } id dir (written ++ [(file, content)])) ∧
      ∀ e, answer = .error e → ServiceState.Settles first now root org { state with storage } id dir written := by
  have hid := hsettled.remembered.isName
  have hhome := DiskStorage.home_ne_nil root org
  have hspec : ∀ place appDir, dir = workflowDir (DiskLayout.home root org) id appDir →
      Holds state.storage.tree (DiskLayout.home root org) place id appDir written →
      DiskStorage.Writes (DiskLayout.home root org) place id appDir written (file, content) state.storage answer
          storage ∧
        ∀ path, answer = .ok path → path = dir ++ '/' :: file := by
    rintro place appDir rfl hholds
    exact DiskStorage.addDefinition_writes hholds hsound.rooted hhome hid hfile hrun
  obtain ⟨hquiet, hok, hfailed⟩ := settles_write hstep hsettled fun place appDir hdir hholds =>
    (hspec place appDir hdir hholds).1
  refine ⟨hquiet, fun path hp => ⟨?_, hok path hp⟩, hfailed⟩
  obtain ⟨place, appDir, hdir, hholds⟩ := hsettled.holds
  rw [(hspec place appDir hdir hholds).2 path hp]
  refine directoryOf_file ?_ hfile
  rw [hdir]
  exact (hholds.no_slash hhome hid).1

theorem advance_planned {workspace : Workspace DiskState} {plan : Plan} (hsound : state.storage.Sound root org)
    (hstep : now.before last = false) (hfits : (Stage.planned workspace plan).Fits first last root org state)
    (h : runOn (advance service org now suffixes (.planned workspace plan)) state = (result, state')) :
    Advances first last now root org (.planned workspace plan) state result state' := by
  obtain rfl : workspace = DiskStorage.workspaceAt (DiskLayout.home root org) := hfits.linked
  have hsettled := hfits.settled plan.jobId plan.dir rfl
  simp only [advance, Service.writeWorkflow, Service.inStorage, Attempt.runOn_bind, Attempt.runOn_within] at h
  rcases hrun : runOn ((DiskStorage.workspaceAt (DiskLayout.home root org)).writeWorkflow plan.dir
    plan.workflow.document) state.storage with ⟨answer, storage⟩
  obtain ⟨hquiet, hok, hfailed⟩ := settles_addDefinition hsound hstep hsettled ⟨by decide, by decide⟩ hrun
  rw [hrun] at h
  cases answer with
  | error e =>
    cases h
    exact .error hquiet (.of_seat hfits.linked rfl (hfailed e rfl))
  | ok path =>
    cases h
    obtain ⟨hdir, hwritten⟩ := hok path rfl
    exact .on hquiet (.of_seat ⟨rfl, hdir⟩ rfl hwritten) rfl

theorem advance_described {workspace : Workspace DiskState} {plan : Plan} {appDir : Text}
    (hsound : state.storage.Sound root org) (hstep : now.before last = false)
    (hfits : (Stage.described workspace plan appDir).Fits first last root org state)
    (h : runOn (advance service org now suffixes (.described workspace plan appDir)) state = (result, state')) :
    Advances first last now root org (.described workspace plan appDir) state result state' := by
  obtain ⟨rfl, rfl⟩ := hfits.linked
  have hsettled := hfits.settled plan.jobId plan.dir rfl
  simp only [advance, Service.writeCoordinator, Attempt.runOn_bind] at h
  cases hdraft : plan.coordinator? with
  | none =>
    rw [hdraft] at h
    cases h
    have hwritten : (Stage.scheduled (DiskStorage.workspaceAt (DiskLayout.home root org)) plan plan.dir).written org =
        [plan.workflowFile] := by
      simp only [Stage.written, Plan.coordinatorFiles_of_none hdraft]
    exact .on (.still hsound hstep rfl rfl) (.of_seat ⟨rfl, rfl⟩ rfl (hwritten ▸ hsettled.still hstep)) rfl
  | some draft =>
    rw [hdraft] at h
    simp only [Service.inStorage, Attempt.runOn_bind, Attempt.runOn_ofExcept, Attempt.runOn_within] at h
    cases hbuild : CoordinatorDraft.build { draft with appDir? := some plan.dir } with
    | error e =>
      rw [hbuild] at h
      cases h
      exact .error (.still hsound hstep rfl rfl) (hfits.still hstep rfl rfl)
    | ok coordinator =>
      rw [hbuild] at h
      simp only [Except.mapError] at h
      rcases hrun : runOn ((DiskStorage.workspaceAt (DiskLayout.home root org)).writeCoordinator plan.dir
        coordinator.document) state.storage with ⟨answer, storage⟩
      obtain ⟨hquiet, hok, hfailed⟩ := settles_addDefinition hsound hstep hsettled ⟨by decide, by decide⟩ hrun
      rw [hrun] at h
      cases answer with
      | error e =>
        cases h
        exact .error hquiet (.of_seat hfits.linked rfl (hfailed e rfl))
      | ok path =>
        cases h
        obtain ⟨hdir, hmore⟩ := hok path rfl
        have hwritten : (Stage.scheduled (DiskStorage.workspaceAt (DiskLayout.home root org)) plan
            (directoryOf path)).written org = [plan.workflowFile] ++ [(coordinatorFileName, coordinator.document)] := by
          simp only [Stage.written, Plan.coordinatorFiles_of_some hdraft hbuild]
          rfl
        exact .on hquiet (.of_seat ⟨rfl, hdir⟩ rfl (hwritten ▸ hmore)) rfl

theorem advance_scheduled {workspace : Workspace DiskState} {plan : Plan} {appDir : Text}
    (hsound : state.storage.Sound root org) (hstep : now.before last = false)
    (hfits : (Stage.scheduled workspace plan appDir).Fits first last root org state)
    (h : runOn (advance service org now suffixes (.scheduled workspace plan appDir)) state = (result, state')) :
    Advances first last now root org (.scheduled workspace plan appDir) state result state' := by
  obtain ⟨rfl, rfl⟩ := hfits.linked
  have hsettled := hfits.settled plan.jobId plan.dir rfl
  simp only [advance, Service.writeProperties, Service.inStorage, Attempt.runOn_bind, Attempt.runOn_within] at h
  rcases hrun : runOn ((DiskStorage.workspaceAt (DiskLayout.home root org)).addFile
    (plan.dir ++ '/' :: connectionParamsFile) (sessionProperties org)) state.storage with ⟨answer, storage⟩
  have hwrites : ∀ place below, plan.dir = workflowDir (DiskLayout.home root org) plan.jobId below →
      Holds state.storage.tree (DiskLayout.home root org) place plan.jobId below
        (plan.workflowFile :: plan.coordinatorFiles) →
      DiskStorage.Writes (DiskLayout.home root org) place plan.jobId below (plan.workflowFile :: plan.coordinatorFiles)
        (connectionParamsFile, sessionProperties org) state.storage answer storage := by
    intro place below hdir hholds
    rw [hdir] at hrun
    exact DiskStorage.addFile_writes hholds hsound.rooted (DiskStorage.home_ne_nil root org) hsettled.remembered.isName
      ⟨by decide, by decide⟩ hrun
  obtain ⟨hquiet, hok, hfailed⟩ := settles_write hstep hsettled hwrites
  rw [hrun] at h
  cases answer with
  | error e =>
    cases h
    exact .error hquiet (.of_seat hfits.linked rfl (hfailed e rfl))
  | ok _ =>
    cases h
    exact .on hquiet (.of_seat rfl rfl (hok _ rfl)) rfl

/-- **One step of a submission**, at any stage. -/
theorem advance_steps {stage : Stage DiskState} (hservice : service.storage = diskStorage root)
    (hsound : state.storage.Sound root org) (hnow : now.InCentury first) (hstep : now.before last = false)
    (hsuffixes : ∀ x ∈ suffixes, JobId.IsSuffix x) (hfits : stage.Fits first last root org state)
    (h : runOn (advance service org now suffixes stage) state = (result, state')) :
    Advances first last now root org stage state result state' := by
  cases stage with
  | received request => exact advance_received hsound hstep hfits h
  | accepted request => exact advance_accepted hservice hsound hstep hfits h
  | opened request workspace => exact advance_opened hsound hnow hstep hsuffixes hfits h
  | named request workspace jobId => exact advance_named hsound hstep hfits h
  | planned workspace plan => exact advance_planned hsound hstep hfits h
  | described workspace plan appDir => exact advance_described hsound hstep hfits h
  | scheduled workspace plan appDir => exact advance_scheduled hsound hstep hfits h
  | complete plan appDir => exact advance_complete hsound hstep hfits h
  | started plan job => exact advance_started hsound hstep hfits h

/-! ## Calls of the engine -/

/-- A job that is complete is handed to the engine, with the directory that its stage names. -/
theorem advance_hands (plan : Plan) (appDir : Text) (state : ServiceState DiskState τ) :
    (runOn (advance service org now suffixes (.complete plan appDir)) state).2.engine =
      (runOn (service.engine.submit ⟨plan.kind, appDir, plan.targetDir⟩) state.engine).2 := by
  simp only [advance, Service.start, Service.inEngine, Attempt.runOn_bind, Attempt.runOn_within]
  rcases runOn (service.engine.submit ⟨plan.kind, appDir, plan.targetDir⟩) state.engine with ⟨_ | _, engine⟩ <;> rfl

/-- At no other stage does the engine hear of the job. -/
theorem advance_unasked {stage : Stage DiskState} (h : ∀ plan appDir, stage ≠ .complete plan appDir)
    (state : ServiceState DiskState τ) :
    (runOn (advance service org now suffixes stage) state).2.engine = state.engine := by
  have hwrites (workspace : Workspace DiskState) (plan : Plan) (appDir : Text) (s : ServiceState DiskState τ) :
      (runOn (Service.writeCoordinator workspace plan appDir) s).2.engine = s.engine := by
    unfold Service.writeCoordinator
    cases plan.coordinator? with
    | none => rfl
    | some draft =>
      refine Attempt.bind_keeps _ (fun _ => rfl) (fun coordinator => ?_) s
      exact Attempt.bind_keeps _ (fun _ => rfl) fun _ _ => rfl
  cases stage with
  | received request => exact Attempt.bind_keeps _ (fun _ => rfl) (fun _ _ => rfl) state
  | accepted request => exact Attempt.bind_keeps _ (fun _ => rfl) (fun _ _ => rfl) state
  | opened request workspace => exact Attempt.bind_keeps _ (fun _ => rfl) (fun _ _ => rfl) state
  | named request workspace jobId => exact Attempt.bind_keeps _ (fun _ => rfl) (fun _ _ => rfl) state
  | planned workspace plan =>
    exact Attempt.bind_keeps _ (Attempt.bind_keeps _ (fun _ => rfl) fun _ _ => rfl) (fun _ _ => rfl) state
  | described workspace plan appDir => exact Attempt.bind_keeps _ (hwrites workspace plan appDir) (fun _ _ => rfl) state
  | scheduled workspace plan appDir => exact Attempt.bind_keeps _ (fun _ => rfl) (fun _ _ => rfl) state
  | complete plan appDir => exact absurd rfl (h plan appDir)
  | started plan job => rfl

/-! ## Failing to write -/

/-- **A step that cannot create a file has tried to create the next one of its submission**, and leaves the tree that has
refused it. -/
theorem advance_createFailed {stage : Stage DiskState} (hservice : service.storage = diskStorage root)
    (hlinked : stage.Linked (DiskLayout.home root org)) {path : Text}
    (h : runOn (advance service org now suffixes stage) state = (.error (.storage (.createFailed path)), state')) :
    ∃ dir content error, stage.next? = some (dir, path) ∧
      (state'.storage.tree = state.storage.tree ∨
        state'.storage.tree = (FileTree.makeDirectories dir state.storage.tree).2) ∧
      state'.storage.tree.makeFile path content = .error error := by
  cases stage with
  | received request =>
    rcases Attempt.bind_failed h with h | ⟨_, _, -, h⟩
    · exact absurd (Service.verdict_of_accept (congrArg Prod.fst h)) id
    · cases h
  | accepted request =>
    rcases Attempt.bind_failed h with h | ⟨_, _, -, h⟩
    · unfold Service.openWorkspace at h
      obtain ⟨cause, part, hrun, he, -⟩ := Attempt.within_failed h
      rw [hservice] at hrun
      cases DiskStorage.workspace_failed hrun
      cases he
    · cases h
  | opened request workspace =>
    rcases Attempt.bind_failed h with h | ⟨_, _, -, h⟩
    · obtain ⟨cause, part, -, he, -⟩ := Attempt.within_failed h
      cases he
    · cases h
  | named request workspace jobId =>
    rcases Attempt.bind_failed h with h | ⟨_, _, -, h⟩
    · obtain ⟨cause, -, he⟩ := Attempt.mapError_eq_error.1 (congrArg Prod.fst h)
      cases he
    · cases h
  | planned workspace plan =>
    obtain rfl : workspace = DiskStorage.workspaceAt (DiskLayout.home root org) := hlinked
    rcases Attempt.bind_failed h with h | ⟨_, _, -, h⟩
    · rcases Attempt.bind_failed h with h | ⟨_, _, -, h⟩
      · obtain ⟨cause, part, hrun, he, rfl⟩ := Attempt.within_failed h
        rcases DiskStorage.addDefinition_failed hrun with rfl | ⟨rfl, htree, error, hrefused⟩ <;> cases he
        exact ⟨plan.dir, _, error, rfl, .inr htree, hrefused⟩
      · cases h
    · cases h
  | described workspace plan appDir =>
    obtain ⟨rfl, -⟩ := hlinked
    rcases Attempt.bind_failed h with h | ⟨_, _, -, h⟩
    · unfold Service.writeCoordinator at h
      cases hdraft : plan.coordinator? with
      | none =>
        rw [hdraft] at h
        cases h
      | some draft =>
        rw [hdraft] at h
        rcases Attempt.bind_failed h with h | ⟨coordinator, s₁, hbuild, h⟩
        · obtain ⟨cause, -, he⟩ := Attempt.mapError_eq_error.1 (congrArg Prod.fst h)
          cases he
        obtain rfl : state = s₁ := congrArg Prod.snd hbuild
        rcases Attempt.bind_failed h with h | ⟨_, _, -, h⟩
        · obtain ⟨cause, part, hrun, he, rfl⟩ := Attempt.within_failed h
          rcases DiskStorage.addDefinition_failed hrun with rfl | ⟨rfl, htree, error, hrefused⟩ <;> cases he
          exact ⟨plan.dir, _, error, by rw [Stage.next?, hdraft]; rfl, .inr htree, hrefused⟩
        · cases h
    · cases h
  | scheduled workspace plan appDir =>
    obtain ⟨rfl, -⟩ := hlinked
    rcases Attempt.bind_failed h with h | ⟨_, _, -, h⟩
    · unfold Service.writeProperties at h
      obtain ⟨cause, part, hrun, he, rfl⟩ := Attempt.within_failed h
      obtain ⟨rfl, rfl, error, hrefused⟩ := DiskStorage.addFile_failed hrun
      cases he
      exact ⟨plan.dir, _, error, rfl, .inl rfl, hrefused⟩
    · cases h
  | complete plan appDir =>
    rcases Attempt.bind_failed h with h | ⟨_, _, -, h⟩
    · rcases Attempt.bind_failed h with h | ⟨_, _, -, h⟩
      · obtain ⟨cause, part, -, he, -⟩ := Attempt.within_failed h
        cases he
      · cases h
    · cases h
  | started plan job => cases h

end ImportDispatch

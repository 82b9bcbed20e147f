import ImportDispatch.Proofs.Service.Steps
import ImportDispatch.Zone.Selection
import Mathlib.Logic.Function.Basic
/-!
# Submissions in traffic

Many submissions to one organization are under way at once.  In every move one of them takes its next step, on the state
that all of them share; which one, what the clock shows and which suffixes are drawn is open.  Whatever the order of the
moves, the submissions keep out of each other's way (`Orderly`), so that none of them notices any other: not in its
directory, not in the step that it takes next (`Traffic.undisturbed`).
-/
namespace ImportDispatch

open Attempt (runOn)

/-- A submission under way, or the failure that has ended it. -/
structure Task (σ : Type) where
  stage : Stage σ
  failure? : Option SubmissionFailure := none

/-- All submissions, and the state that they share. -/
structure Traffic (ι σ τ : Type) where
  tasks : ι → Task σ
  state : ServiceState σ τ

structure Move (ι : Type) where
  who : ι
  now : LocalTime
  suffixes : List Text

namespace Traffic

section

variable [ZoneDatabase] {ι τ : Type} [DecidableEq ι]

/-- What a move does.  A submission that has failed stays where it is. -/
def move {σ : Type} (service : Service σ τ) (org : Text) (traffic : Traffic ι σ τ) (m : Move ι) : Traffic ι σ τ :=
  let task := traffic.tasks m.who
  match task.failure? with
  | some _ => traffic
  | none =>
    match runOn (service.advance org m.now m.suffixes task.stage) traffic.state with
    | (.ok stage, state) => ⟨Function.update traffic.tasks m.who { stage }, state⟩
    | (.error e, state) => ⟨Function.update traffic.tasks m.who { task with failure? := some e }, state⟩

def run {σ : Type} (service : Service σ τ) (org : Text) (traffic : Traffic ι σ τ) (moves : List (Move ι)) :
    Traffic ι σ τ :=
  moves.foldl (move service org) traffic

/-- Every submission fits the state, and no two of them have the same id. -/
structure Orderly (first : Int) (last : LocalTime) (root org : Text) (traffic : Traffic ι DiskState τ) : Prop where
  sound : traffic.state.storage.Sound root org
  fits : ∀ i, (traffic.tasks i).stage.Fits first last root org traffic.state
  distinct : ∀ i j, i ≠ j → ∀ id dir id' dir', (traffic.tasks i).stage.seat? = some (id, dir) →
    (traffic.tasks j).stage.seat? = some (id', dir') → id ≠ id'

variable {first : Int} {last now : LocalTime} {root org : Text} {traffic : Traffic ι DiskState τ}
  {service : Service DiskState τ}

/-! ## One move -/

omit [DecidableEq ι] in
theorem Orderly.still (h : traffic.Orderly first last root org) (hstep : now.before last = false) :
    traffic.Orderly first now root org where
  sound := h.sound
  fits i := (h.fits i).still hstep rfl rfl
  distinct := h.distinct

/-- One submission changes its stage, and the others do not notice. -/
theorem Orderly.update (h : traffic.Orderly first last root org) (who : ι) (task : Task DiskState)
    {state : ServiceState DiskState τ}
    (hquiet : Quiet first last now root org ((traffic.tasks who).stage.seat?.map Prod.fst) traffic.state state)
    (hfits : task.stage.Fits first now root org state)
    (hfresh : ∀ id dir, task.stage.seat? = some (id, dir) → (traffic.tasks who).stage.seat? ≠ some (id, dir) →
      ∀ other dir' written, traffic.state.Settles first last root org other dir' written → other ≠ id) :
    Orderly first now root org ⟨Function.update traffic.tasks who task, state⟩ := by
  have hnew : ∀ j, j ≠ who → ∀ id dir id' dir', task.stage.seat? = some (id, dir) →
      (traffic.tasks j).stage.seat? = some (id', dir') → id ≠ id' := by
    intro j hj id dir id' dir' hs hs'
    by_cases hold : (traffic.tasks who).stage.seat? = some (id, dir)
    · exact h.distinct who j (Ne.symm hj) id dir id' dir' hold hs'
    · exact Ne.symm (hfresh id dir hs hold id' dir' _ ((h.fits j).settled id' dir' hs'))
  refine ⟨hquiet.sound, fun i => ?_, fun i j hij id dir id' dir' hs hs' => ?_⟩
  · by_cases hi : i = who
    · subst hi
      simpa only [Function.update_self] using hfits
    · simp only [Function.update_of_ne hi]
      refine ⟨(h.fits i).linked, fun request workspace hs => hquiet.leads ((h.fits i).ready request workspace hs), ?_⟩
      intro id dir hs
      refine hquiet.others id dir _ (fun hown => ?_) ((h.fits i).settled id dir hs)
      obtain ⟨⟨own, dir'⟩, hseat, rfl⟩ := Option.map_eq_some_iff.1 hown
      exact h.distinct who i (Ne.symm hi) _ _ _ _ hseat hs rfl
  · by_cases hi : i = who
    · subst hi
      simp only [Function.update_self] at hs
      simp only [Function.update_of_ne (Ne.symm hij)] at hs'
      exact hnew j (Ne.symm hij) id dir id' dir' hs hs'
    · simp only [Function.update_of_ne hi] at hs
      by_cases hj : j = who
      · subst hj
        simp only [Function.update_self] at hs'
        exact Ne.symm (hnew i hi id' dir' id dir hs' hs)
      · simp only [Function.update_of_ne hj] at hs'
        exact h.distinct i j hij id dir id' dir' hs hs'

theorem Orderly.move (hservice : service.storage = diskStorage root) (h : traffic.Orderly first last root org)
    (m : Move ι) (hnow : m.now.InCentury first) (hstep : m.now.before last = false)
    (hsuffixes : ∀ x ∈ m.suffixes, JobId.IsSuffix x) :
    (traffic.move service org m).Orderly first m.now root org := by
  unfold Traffic.move
  dsimp only
  cases hfailure : (traffic.tasks m.who).failure? with
  | some e => exact h.still hstep
  | none =>
    dsimp only
    rcases hrun : runOn (service.advance org m.now m.suffixes (traffic.tasks m.who).stage) traffic.state with
      ⟨result, state⟩
    have hadvances := advance_steps hservice h.sound hnow hstep hsuffixes (h.fits m.who) hrun
    cases result with
    | ok stage =>
      exact h.update m.who { stage } hadvances.quiet (hadvances.ok stage rfl) fun id dir hs =>
        hadvances.fresh stage id dir rfl hs
    | error e =>
      exact h.update m.who { traffic.tasks m.who with failure? := some e } hadvances.quiet (hadvances.failed e rfl)
        fun id dir hs hne => absurd hs hne

/-- **Every run keeps the order**, as long as the clock does not go backwards and stays in one hundred years. -/
theorem Orderly.run (hservice : service.storage = diskStorage root) : ∀ {moves : List (Move ι)} {last : LocalTime}
    {traffic : Traffic ι DiskState τ}, traffic.Orderly first last root org →
    (∀ m ∈ moves, m.now.before last = false) → moves.Pairwise (fun m n => n.now.before m.now = false) →
    (∀ m ∈ moves, m.now.InCentury first) → (∀ m ∈ moves, ∀ x ∈ m.suffixes, JobId.IsSuffix x) →
    ∃ last', (traffic.run service org moves).Orderly first last' root org
  | [], last, _, h, _, _, _, _ => ⟨last, h⟩
  | m :: moves, last, traffic, h, hafter, hclock, hcentury, hsuffixes => by
    rw [List.pairwise_cons] at hclock
    have hmoved := h.move hservice m (hcentury m List.mem_cons_self) (hafter m List.mem_cons_self)
      (hsuffixes m List.mem_cons_self)
    change ∃ last', (Traffic.run service org (traffic.move service org m) moves).Orderly first last' root org
    exact Orderly.run hservice hmoved hclock.1 hclock.2 (fun n hn => hcentury n (List.mem_cons_of_mem _ hn))
      fun n hn => hsuffixes n (List.mem_cons_of_mem _ hn)

/-! ## What submissions can rely on -/

omit [DecidableEq ι] in
theorem Orderly.start (hstart : ∀ i, ∃ request, traffic.tasks i = { stage := .received request })
    (hrooted : traffic.state.storage.tree.Rooted)
    (hopened : traffic.state.storage.opened.elem org = true →
      traffic.state.storage.tree.isDirectory (DiskLayout.home root org) = true) (first : Int) (last : LocalTime) :
    traffic.Orderly first last root org where
  sound := ⟨hrooted, fun h => FileTree.leads_of_isDirectory (hopened h)⟩
  fits i := by
    obtain ⟨request, hi⟩ := hstart i
    rw [hi]
    exact ⟨trivial, fun _ _ hs => (by cases hs), fun _ _ hs => (by cases hs)⟩
  distinct i j _ id dir id' dir' hs := by
    obtain ⟨request, hi⟩ := hstart i
    rw [hi] at hs
    cases hs

/-- What every submission can rely on, whatever the others do. -/
structure Undisturbed (service : Service DiskState τ) (org : Text) (traffic : Traffic ι DiskState τ) : Prop where
  /-- No directory of a submission is that of another or lies in it. -/
  apart : ∀ i j, i ≠ j → ∀ id dir id' dir', (traffic.tasks i).stage.seat? = some (id, dir) →
    (traffic.tasks j).stage.seat? = some (id', dir') → ¬ DiskLayout.Within dir dir'
  /-- The same holds for the places in the tree that the two paths lead to. -/
  places_apart : ∀ i j, i ≠ j → ∀ id dir id' dir', (traffic.tasks i).stage.seat? = some (id, dir) →
    (traffic.tasks j).stage.seat? = some (id', dir') → ∀ place place',
    traffic.state.storage.tree.Leads dir place → traffic.state.storage.tree.Leads dir' place' → ¬ place' <+: place
  /-- Nothing has the path of the file that a submission writes next, before its directory is made and after. -/
  free : ∀ i dir path, (traffic.tasks i).stage.next? = some (dir, path) → ∀ content,
    traffic.state.storage.tree.makeFile path content ≠ .error .taken ∧
      (FileTree.makeDirectories dir traffic.state.storage.tree).2.makeFile path content ≠ .error .taken
  /-- Where the next step of a submission cannot create a file, it is this file, and not because its path is taken. -/
  not_taken : ∀ i now suffixes path state',
    runOn (service.advance org now suffixes (traffic.tasks i).stage) traffic.state =
        (.error (.storage (.createFailed path)), state') →
      ∃ dir content error, (traffic.tasks i).stage.next? = some (dir, path) ∧
        state'.storage.tree.makeFile path content = .error error ∧ error ≠ .taken
  /-- The files in the directory of a submission are those that it has written, as it has written them. -/
  files : ∀ i id dir, (traffic.tasks i).stage.seat? = some (id, dir) →
    traffic.state.storage.tree.filesIn dir = ((traffic.tasks i).stage.written org).map fun file => ([file.1], file.2)
  /-- The directory that the engine is given holds all that belongs to the plan, and nothing else. -/
  engine : ∀ i plan appDir, (traffic.tasks i).stage = .complete plan appDir →
    traffic.state.storage.tree.filesIn appDir = (plan.files org).map fun file => ([file.1], file.2)
  /-- It is the next step that gives it to the engine. -/
  handed : ∀ i plan appDir, (traffic.tasks i).stage = .complete plan appDir → ∀ now suffixes,
    (runOn (service.advance org now suffixes (traffic.tasks i).stage) traffic.state).2.engine =
      (runOn (service.engine.submit ⟨plan.kind, appDir, plan.targetDir⟩) traffic.state.engine).2
  /-- No other step asks the engine for anything. -/
  unasked : ∀ i, (∀ plan appDir, (traffic.tasks i).stage ≠ .complete plan appDir) → ∀ now suffixes,
    (runOn (service.advance org now suffixes (traffic.tasks i).stage) traffic.state).2.engine = traffic.state.engine

theorem next_free {stage : Stage DiskState} {state : ServiceState DiskState τ} (hsound : state.storage.Sound root org)
    (hfits : stage.Fits first last root org state) {dir path : Text} (hnext : stage.next? = some (dir, path))
    (content : Text) : state.storage.tree.makeFile path content ≠ .error .taken ∧
      (FileTree.makeDirectories dir state.storage.tree).2.makeFile path content ≠ .error .taken := by
  have hhome := DiskStorage.home_ne_nil root org
  cases stage with
  | planned workspace plan =>
    have hsettled := hfits.settled plan.jobId plan.dir rfl
    cases hnext
    rw [hsettled.joinPath_eq hhome workflowFileName_isName]
    exact hsettled.not_taken hsound.rooted hhome workflowFileName_isName (by simp [Stage.written]) content
  | described workspace plan appDir =>
    have hsettled := hfits.settled plan.jobId plan.dir rfl
    obtain ⟨draft, -, heq⟩ := Option.map_eq_some_iff.1 hnext
    cases heq
    rw [hsettled.joinPath_eq hhome coordinatorFileName_isName]
    refine hsettled.not_taken hsound.rooted hhome coordinatorFileName_isName (fun file hfile => ?_) content
    obtain rfl := List.mem_singleton.1 hfile
    exact fun h => absurd h (by decide : workflowFileName ≠ coordinatorFileName)
  | scheduled workspace plan appDir =>
    have hsettled := hfits.settled plan.jobId plan.dir rfl
    cases hnext
    refine hsettled.not_taken hsound.rooted hhome connectionParamsFile_isName (fun file hfile => ?_) content
    rcases List.mem_cons.1 hfile with rfl | hfile
    · exact fun h => absurd h (by decide : workflowFileName ≠ connectionParamsFile)
    · rw [plan.coordinatorFiles_names file hfile]
      decide
  | _ => cases hnext

omit [DecidableEq ι] in
theorem undisturbed_of_orderly (hservice : service.storage = diskStorage root)
    (h : traffic.Orderly first last root org) : traffic.Undisturbed service org where
  apart i j hij id dir id' dir' hs hs' :=
    (((h.fits i).settled id dir hs).apart ((h.fits j).settled id' dir' hs') (DiskStorage.home_ne_nil root org)
      (h.distinct i j hij id dir id' dir' hs hs')).1
  places_apart i j hij id dir id' dir' hs hs' place place' hp hp' :=
    (((h.fits i).settled id dir hs).apart ((h.fits j).settled id' dir' hs') (DiskStorage.home_ne_nil root org)
      (h.distinct i j hij id dir id' dir' hs hs')).2 place place' hp.walk hp'.walk
  free i dir path hnext content := next_free h.sound (h.fits i) hnext content
  not_taken i now suffixes path state' hstep := by
    obtain ⟨dir, content, error, hnext, htree, hrefused⟩ := advance_createFailed hservice (h.fits i).linked hstep
    have hfree := next_free h.sound (h.fits i) hnext content
    refine ⟨dir, content, error, hnext, hrefused, ?_⟩
    rintro rfl
    rcases htree with htree | htree
    · exact hfree.1 (htree ▸ hrefused)
    · exact hfree.2 (htree ▸ hrefused)
  files i id dir hs := ((h.fits i).settled id dir hs).filesIn (DiskStorage.home_ne_nil root org)
  engine i plan appDir hi := by
    have hfits := h.fits i
    rw [hi] at hfits
    obtain rfl : appDir = plan.dir := hfits.linked
    exact (hfits.settled plan.jobId plan.dir rfl).filesIn (DiskStorage.home_ne_nil root org)
  handed i plan appDir hi now suffixes := by
    rw [hi]
    exact advance_hands plan appDir traffic.state
  unasked i hi now suffixes := advance_unasked hi traffic.state

/-- **Submissions do not disturb each other.**  Take any number of requests to one organization, on any tree and with
any engine, and any moves of their submissions, as long as the clock does not go backwards and stays in one hundred
years: after these moves every submission has a directory of its own with exactly the files that it has written, the step
that creates its next file does not find it taken, and the step that hands it to the engine finds all its files there. -/
theorem undisturbed (service : Service DiskState τ) (root org : Text) (hservice : service.storage = diskStorage root)
    (traffic : Traffic ι DiskState τ) (hstart : ∀ i, ∃ request, traffic.tasks i = { stage := .received request })
    (hrooted : traffic.state.storage.tree.Rooted)
    (hopened : traffic.state.storage.opened.elem org = true →
      traffic.state.storage.tree.isDirectory (DiskLayout.home root org) = true)
    (first : Int) (moves : List (Move ι)) (hclock : moves.Pairwise fun m n => n.now.before m.now = false)
    (hcentury : ∀ m ∈ moves, m.now.InCentury first) (hsuffixes : ∀ m ∈ moves, ∀ x ∈ m.suffixes, JobId.IsSuffix x) :
    (traffic.run service org moves).Undisturbed service org := by
  have hlast : ∃ last : LocalTime, ∀ m ∈ moves, m.now.before last = false := by
    cases moves with
    | nil => exact ⟨⟨0, 0, 0, by decide, by decide, by decide, by decide⟩, by simp⟩
    | cons m moves =>
      refine ⟨m.now, fun n hn => ?_⟩
      rcases List.mem_cons.1 hn with rfl | hn
      · exact LocalTime.not_before_self _
      · exact (List.pairwise_cons.1 hclock).1 n hn
  obtain ⟨last, hafter⟩ := hlast
  obtain ⟨last', horderly⟩ :=
    Orderly.run hservice (Orderly.start hstart hrooted hopened first last) hafter hclock hcentury hsuffixes
  exact undisturbed_of_orderly hservice horderly

end

/-! ## Two submissions under one name -/

def sampleService : Service DiskState Nat where
  storage := diskStorage "data".toList
  engine := ⟨fun _ => do
    modify (· + 1)
    return "engine-job".toList⟩
  metastore := "jdbc:metastore".toList

def sampleSpec : ImportSpec where
  jdbcUri := "jdbc:db".toList
  table := "orders".toList
  username := "etl".toList
  importMode := "append".toList

/-- A request to import once, and one to import every hour, under the same name. -/
def sampleRequest : Bool → JobRequest
  | false => .once { name := "daily".toList, spec := sampleSpec }
  | true => .recurring {
      name := "daily".toList
      appDir := "app/".toList
      spec := sampleSpec
      schedule := ⟨.sample 0, .sample 59, "UTC".toList, ⟨"hours".toList, 1⟩⟩ }

def sampleTraffic : Traffic Bool DiskState Nat where
  tasks who := { stage := .received (sampleRequest who) }
  state := { storage := { tree := ⟨[], []⟩ }, engine := 0 }

/-- Both submissions take their steps in turn, all in the same second. -/
def sampleMoves (rounds : Nat) : List (Move Bool) :=
  (List.replicate rounds [false, true]).flatten.map fun who => ⟨who, .sample 7, ["aB".toList]⟩

def sampleRun (rounds : Nat) : Traffic Bool DiskState Nat :=
  sampleTraffic.run sampleService "acme".toList (sampleMoves rounds)

/-- The names of the files that stand in a directory. -/
def filesAt (traffic : Traffic Bool DiskState Nat) (dir : String) : List (List Text) :=
  (traffic.state.storage.tree.filesIn dir.toList).map (·.1)

theorem undisturbed_sample :
    ((sampleRun 8).tasks false).stage.seat? =
        some ("daily-160309-140507".toList, "data/org/acme/oozie-jobs/daily-160309-140507".toList) ∧
      ((sampleRun 8).tasks true).stage.seat? =
        some ("daily-160309-140507-aB".toList, "data/org/acme/oozie-jobs/daily-160309-140507-aB/app".toList) ∧
      filesAt (sampleRun 8) "data/org/acme/oozie-jobs/daily-160309-140507" =
        [[workflowFileName], [connectionParamsFile]] ∧
      filesAt (sampleRun 8) "data/org/acme/oozie-jobs/daily-160309-140507-aB/app" =
        [[workflowFileName], [coordinatorFileName], [connectionParamsFile]] ∧
      (sampleRun 8).state.engine = 2 ∧ (sampleRun 8).Undisturbed sampleService "acme".toList := by
  have hundisturbed : (sampleRun 8).Undisturbed sampleService "acme".toList :=
    undisturbed sampleService "data".toList "acme".toList rfl sampleTraffic (fun who => ⟨sampleRequest who, rfl⟩)
      (fun _ he => by cases he) (fun h => by cases h) 2000 (sampleMoves 8) (by decide) (by decide) (by decide)
  simp only [hundisturbed, and_true]
  decide +kernel

end Traffic
end ImportDispatch

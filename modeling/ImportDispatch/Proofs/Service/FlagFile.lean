import ImportDispatch.Proofs.Service.OneDirectory
import ImportDispatch.Proofs.Service.Planning
import ImportDispatch.Zone.Selection
/-!
# Which flag file is tested

A recurring job asks for its flag file in the expression language of the engine, where the path is a string literal: a
quote ends it, and a backslash stands for the character behind it.  The path is put between the quotes as it is.  So
what is tested is what the path stands for as a literal (`testedPath?_existsCondition`), and that is the path itself only
if neither mark is in it.  The file that is made comes from an attribute, where the path is escaped.  The two are one
file as long as the home, the name of the job and what the client chose are free of both marks
(`DiskStorage.tests_flag_iff`); the rules let a quote into a name, and both into a path.
-/
namespace ImportDispatch

open Attempt (runOn)
open Markup

/-! ## String literals -/

/-- What a string literal stands for, from behind its opening quote, and what follows its closing one. -/
def readLiteral : Text → Option (Text × Text)
  | [] => none
  | '"' :: rest => some ([], rest)
  | '\\' :: c :: rest => (readLiteral rest).map fun (s, after) => (c :: s, after)
  | c :: rest => (readLiteral rest).map fun (s, after) => (c :: s, after)

/-- The path whose existence a condition of the engine tests. -/
def testedPath? (condition : Text) : Option Text :=
  if conditionFront <+: condition then
    match readLiteral (condition.drop conditionFront.length) with
    | some (path, after) => if '"' :: after = conditionBack then some path else none
    | none => none
  else none

/-- What stands between the quotes of a literal, and what it stands for. -/
inductive IsLiteral : Text → Text → Prop
  | nil : IsLiteral [] []
  | escaped {raw s : Text} (c : Char) (h : IsLiteral raw s) : IsLiteral ('\\' :: c :: raw) (c :: s)
  | plain {raw s : Text} {c : Char} (hquote : c ≠ '"') (hescape : c ≠ '\\') (h : IsLiteral raw s) :
    IsLiteral (c :: raw) (c :: s)

/-- No character has a meaning in a literal. -/
def IsBare (s : Text) : Prop := ∀ c ∈ s, c ≠ '"' ∧ c ≠ '\\'

instance : DecidablePred IsBare := fun s => List.decidableBAll _ s

theorem IsLiteral.read {raw s : Text} (h : IsLiteral raw s) (after : Text) :
    readLiteral (raw ++ '"' :: after) = some (s, after) := by
  induction h with
  | nil => rfl
  | escaped c _ ih => rw [List.cons_append, List.cons_append, readLiteral, ih, Option.map_some]
  | plain hquote hescape _ ih =>
    rw [List.cons_append, readLiteral, ih, Option.map_some]
    · rintro rfl
      exact hquote rfl
    · rintro _ _ rfl
      exact absurd rfl hescape

theorem exists_isLiteral {x s after : Text} (h : readLiteral x = some (s, after)) :
    ∃ raw, IsLiteral raw s ∧ x = raw ++ '"' :: after := by
  fun_induction readLiteral x generalizing s with
  | case1 => cases h
  | case2 rest =>
    cases h
    exact ⟨[], .nil, rfl⟩
  | case3 c rest ih =>
    obtain ⟨⟨t, end'⟩, hread, heq⟩ := Option.map_eq_some_iff.1 h
    cases heq
    obtain ⟨raw, hraw, rfl⟩ := ih hread
    exact ⟨'\\' :: c :: raw, .escaped c hraw, rfl⟩
  | case4 c rest hquote hescape ih =>
    obtain ⟨⟨t, end'⟩, hread, heq⟩ := Option.map_eq_some_iff.1 h
    cases heq
    obtain ⟨raw, hraw, rfl⟩ := ih hread
    refine ⟨c :: raw, .plain hquote ?_ hraw, rfl⟩
    -- a backslash that escapes nothing would be the last character
    rintro rfl
    cases raw with
    | nil => exact hescape _ _ rfl rfl
    | cons d raw => exact hescape _ _ rfl rfl

/-- A literal never stands for more than is written, and for as much only if nothing is escaped. -/
theorem IsLiteral.length {raw s : Text} (h : IsLiteral raw s) :
    s.length ≤ raw.length ∧ (s.length = raw.length → IsBare raw) := by
  induction h with
  | nil => exact ⟨Nat.le_refl _, fun _ => by simp [IsBare]⟩
  | escaped c _ ih =>
    simp only [List.length_cons]
    exact ⟨by omega, fun h => by omega⟩
  | plain hquote hescape _ ih =>
    simp only [List.length_cons]
    exact ⟨by omega, fun h => List.forall_mem_cons.2 ⟨⟨hquote, hescape⟩, ih.2 (by omega)⟩⟩

theorem IsBare.isLiteral : ∀ {s : Text}, IsBare s → IsLiteral s s
  | [], _ => .nil
  | _ :: _, h => .plain (h _ List.mem_cons_self).1 (h _ List.mem_cons_self).2
      (isLiteral fun c hc => h c (List.mem_cons_of_mem _ hc))

theorem isLiteral_self_iff {s : Text} : IsLiteral s s ↔ IsBare s := ⟨fun h => h.length.2 rfl, IsBare.isLiteral⟩

/-- **A condition tests the path that its own path stands for as a literal**, and nothing if it is no literal. -/
theorem testedPath?_existsCondition {path tested : Text} :
    testedPath? (existsCondition path) = some tested ↔ IsLiteral path tested := by
  obtain ⟨back, hback⟩ : ∃ back, conditionBack = '"' :: back := ⟨_, rfl⟩
  have hcondition : existsCondition path = conditionFront ++ (path ++ '"' :: back) := by
    rw [← hback, ← List.append_assoc]
    rfl
  rw [hcondition, testedPath?, if_pos (List.prefix_append _ _), List.drop_left, hback]
  constructor
  · intro h
    cases hread : readLiteral (path ++ '"' :: back) with
    | none => rw [hread] at h; cases h
    | some found =>
      obtain ⟨s, after⟩ := found
      rw [hread] at h
      dsimp only at h
      split at h
      · rename_i hafter
        cases h
        obtain ⟨raw, hraw, heq⟩ := exists_isLiteral hread
        rw [hafter] at heq
        rwa [List.append_cancel_right heq]
      · cases h
  · intro h
    rw [h.read]
    exact if_pos rfl

theorem testedPath?_self {path : Text} : testedPath? (existsCondition path) = some path ↔ IsBare path :=
  testedPath?_existsCondition.trans isLiteral_self_iff

/-! ## Bare texts -/

theorem isBare_append {s t : Text} : IsBare (s ++ t) ↔ IsBare s ∧ IsBare t := List.forall_mem_append

theorem isBare_cons {c : Char} {s : Text} (h : c ≠ '"' ∧ c ≠ '\\') : IsBare (c :: s) ↔ IsBare s := by
  rw [IsBare, List.forall_mem_cons]
  exact and_iff_right h

theorem isBare_replicate {c : Char} (h : c ≠ '"' ∧ c ≠ '\\') (n : Nat) : IsBare (List.replicate n c) := fun d hd => by
  rwa [List.eq_of_mem_replicate hd]

theorem isBare_of_forall {s : Text} {p : Char → Bool} (h : ∀ c ∈ s, p c = true) (hquote : p '"' = false)
    (hescape : p '\\' = false) : IsBare s := fun c hc => by
  constructor
  · rintro rfl
    rw [h _ hc] at hquote
    cases hquote
  · rintro rfl
    rw [h _ hc] at hescape
    cases hescape

theorem JobId.isBare_grown : ∀ {suffixes : List Text} {id : Text}, (∀ x ∈ suffixes, IsSuffix x) →
    (IsBare (grown id suffixes) ↔ IsBare id)
  | [], _, _ => Iff.rfl
  | suffix :: rest, id, h => by
    rw [List.forall_mem_cons] at h
    rw [grown_cons, isBare_grown h.2, isBare_append, isBare_cons (by decide)]
    exact and_iff_left (isBare_of_forall h.1.alphanumeric (by decide) (by decide))

theorem isBare_normalName (name : Text) : IsBare (normalName name) ↔ IsBare name := by
  rw [IsBare, normalName, List.forall_mem_map]
  refine forall₂_congr fun c _ => ?_
  split
  · rename_i hspace
    subst hspace
    decide
  · rfl

theorem JobId.IsIdOf.isBare_iff {name id : Text} {time : LocalTime} (h : IsIdOf name time id) : IsBare id ↔ IsBare name := by
  obtain ⟨suffixes, hsuffixes, rfl⟩ := h
  obtain ⟨date, clock, hstamp, -, -, hdate, hclock⟩ := (isStamp_stampText time).split
  have hbare : IsBare ('-' :: time.stampText) := by
    rw [isBare_cons (by decide), hstamp, isBare_append, isBare_cons (by decide)]
    exact ⟨isBare_of_forall hdate (by decide) (by decide), isBare_of_forall hclock (by decide) (by decide)⟩
  rw [isBare_grown hsuffixes, base, isBare_append, isBare_normalName]
  exact and_iff_left hbare

theorem isBare_trimSlashes {path : Text} (h : path.head? ≠ some '/') :
    IsBare (DiskLayout.trimSlashes path) ↔ IsBare path := by
  obtain ⟨n, hpath, -⟩ := Text.exists_trimEnd '/' path
  rw [DiskLayout.trimSlashes_eq h]
  conv => rhs; rw [hpath, isBare_append]
  exact (and_iff_left (isBare_replicate (by decide) n)).symm

theorem isBare_joinPath {base part : Text} (h : part.head? ≠ some '/') :
    IsBare (joinPath base part) ↔ IsBare base ∧ IsBare part := by
  unfold joinPath
  rw [if_neg h]
  split
  · exact isBare_append
  · rw [isBare_append, isBare_cons (by decide)]

/-- The directory of a workflow is as bare as its home, its id and what the client chose. -/
theorem DiskLayout.isBare_workflowDir {home id appDir : Text} (hid : IsName id)
    (hnames : ∀ s ∈ belowJob appDir, IsName s) (happDir : appDir.head? ≠ some '/') :
    IsBare (workflowDir home id appDir) ↔ IsBare home ∧ IsBare id ∧ IsBare appDir := by
  have hbelow : IsBare (belowText appDir) ↔ IsBare appDir := by
    rw [← isBare_trimSlashes happDir, belowText]
    split
    · rename_i hempty
      rw [List.isEmpty_iff.1 hempty]
    · exact isBare_cons (by decide)
  have hjobs : IsBare jobsFolder := by decide
  rw [workflowDir_eq hid hnames, isBare_append, isBare_joinPath jobsFolder_isName.head, isBare_cons (by decide),
    isBare_append, hbelow, and_iff_left hjobs]

/-! ## What the document says -/

namespace Markup

mutual
/-- An element and all that are in it, in the order of the document. -/
def Element.parts : Element → List Element
  | .nested name attributes first others => .nested name attributes first others :: (first.parts ++ partsOfAll others)
  | element => [element]

def partsOfAll : List Element → List Element
  | [] => []
  | element :: others => element.parts ++ partsOfAll others
end

def Element.conditions (element : Element) : List Text :=
  element.parts.filterMap fun
    | .text name _ content => if name = "case".toList then some content else none
    | _ => none

def Element.madeFiles (element : Element) : List Text :=
  element.parts.filterMap fun
    | .empty name attributes => if name = "touchz".toList then attributes.lookup "path".toList else none
    | _ => none

end Markup

/-- The workflow of a recurring import has one condition and makes one file, both with the path of the flag. -/
theorem conditions_recurring (name start killMessage appName flagPath : Text) (overwrite : Bool) (save run : CommandLine) :
    let tree := Workflow.element ⟨appName, start, killMessage, (recurringDraft name flagPath overwrite save run).nodes⟩
    tree.conditions = [existsCondition flagPath] ∧ tree.madeFiles = [flagPath] := by
  cases overwrite <;> exact ⟨rfl, rfl⟩

/-! ## Accepted jobs -/

theorem Service.read_flags {σ τ : Type} {service : Service σ τ} {workspace : Workspace σ} {id : Text}
    {job : ScheduledJob} {plan : Plan} (hplan : service.plan workspace id (.recurring job) = .ok plan) :
    ∃ tree, Element.read plan.workflow.document = some tree ∧
      tree.conditions = [existsCondition (flagPath plan.dir)] ∧ tree.madeFiles = [flagPath plan.dir] := by
  obtain ⟨save, run, rfl⟩ := Plan.recurring_ok (Attempt.mapError_eq_ok hplan)
  exact ⟨_, Workflow.read_tree _, conditions_recurring job.name _ _ _ _ _ save run⟩

namespace DiskStorage

/-- **When a recurring job tests the flag file that it makes.**  The workflow of an accepted job has one condition and
makes one file, the flag in its directory.  The condition tests this file exactly if no quote and no backslash is in the
home of the organization, in the name of the job and in the path that the client chose. -/
theorem tests_flag_iff [ZoneDatabase] {τ : Type} {service : Service DiskState τ} {root : Text}
    (hdisk : service.storage = diskStorage root) {org : Text} {now : LocalTime} {suffixes : List Text}
    (hsuffixes : ∀ x ∈ suffixes, JobId.IsSuffix x) {job : ScheduledJob} {normal : JobRequest}
    (haccept : service.accept (.recurring job) = .ok normal) {workspace : Workspace DiskState}
    {s s₁ s₂ : ServiceState DiskState τ} (hopen : runOn (service.openWorkspace org) s = (.ok workspace, s₁)) {id : Text}
    (hreserve : runOn (Service.reserveId workspace now suffixes normal.name) s₁ = (.ok id, s₂)) {plan : Plan}
    (hplan : service.plan workspace id normal = .ok plan) :
    ∃ tree condition, Element.read plan.workflow.document = some tree ∧ tree.conditions = [condition] ∧
      tree.madeFiles = [flagPath plan.dir] ∧
      (testedPath? condition = some (flagPath plan.dir) ↔ IsBare workspace.home ∧ IsBare job.name ∧ IsBare job.appDir) := by
  obtain rfl := openWorkspace_ok hdisk hopen
  obtain ⟨hname, happDir⟩ := Service.accept_placed haccept
  obtain ⟨-, rfl⟩ := Service.accept_eq_ok.1 haccept
  have hid := (JobId.reserve_ok hsuffixes (Service.reserveId_ok hreserve)).1
  have hdir := (Service.plan_place hplan).2.1
  rw [JobRequest.normal_appDir] at happDir hdir
  have hbare : IsBare (flagPath plan.dir) ↔
      IsBare (DiskLayout.home root org) ∧ IsBare job.name ∧ IsBare job.appDir := by
    have hflag : IsBare flagName := by decide
    have hsame : IsBare id ↔ IsBare job.name := by
      rw [hid.isBare_iff, JobRequest.normal_name]
      exact isBare_normalName job.name
    rw [flagPath, isBare_append, isBare_cons (by decide), and_iff_left hflag, hdir, ← hsame]
    exact DiskLayout.isBare_workflowDir (hid.isName hname) (DiskLayout.names_belowJob happDir)
      (DiskLayout.head_of_pathViolation? happDir)
  obtain ⟨tree, hread, hconditions, hmade⟩ := Service.read_flags hplan
  exact ⟨tree, _, hread, hconditions, hmade, testedPath?_self.trans hbare⟩

def flaggedSpec : ImportSpec where
  jdbcUri := "jdbc:mysql://db:3306/sales".toList
  table := "orders".toList
  importMode := "append".toList

def flaggedJob (name : Text) : ScheduledJob where
  name
  appDir := "flows/app/".toList
  spec := flaggedSpec
  schedule := ⟨.sample 0, .sample 59, "UTC".toList, ⟨"hours".toList, 1⟩⟩

def flaggedRequest (name : Text) : JobRequest := (JobRequest.recurring (flaggedJob name)).normal [] fallbackUsername

section

variable {name : Text} (hplace : placeViolations name "flows/app/".toList = [])

include hplace

theorem flaggedJob_violations : (JobRequest.recurring (flaggedJob name)).violations localService.minimum = .ok [] := by
  have hspec : flaggedSpec.violations = [] := by decide +kernel
  have hschedule : Schedule.violations 300 ⟨.sample 0, .sample 59, "UTC".toList, ⟨"hours".toList, 1⟩⟩ = .ok [] := by
    decide +kernel
  exact ScheduledJob.violations_eq_nil.2 ⟨hplace, hspec, hschedule⟩

theorem flaggedJob_accepted : localService.accept (.recurring (flaggedJob name)) = .ok (flaggedRequest name) :=
  Service.accept_eq_ok.2 ⟨flaggedJob_violations hplace, rfl⟩

theorem exists_plan_flaggedJob {id : Text} (hid : Text.isBlank id = false) : ∃ plan,
    localService.plan (workspaceAt "data/org/acme".toList) id (flaggedRequest name) = .ok plan := by
  have huri : Text.isBlank flaggedSpec.jdbcUri = false := by decide
  have htable : ¬flaggedSpec.LacksTable := by decide
  exact (Service.exists_plan_iff (flaggedJob_violations hplace) (by decide) hid).2 ⟨huri, htable⟩

omit hplace

theorem flaggedJob_reserved {id : Text} (h : (runOn (Service.reserveId (workspaceAt "data/org/acme".toList) (.sample 7) []
    (flaggedRequest name).name) emptyDisk).1 = .ok id) : ∃ s, runOn (Service.reserveId
      (workspaceAt "data/org/acme".toList) (.sample 7) [] (flaggedRequest name).name) emptyDisk = (.ok id, s) :=
  ⟨_, Prod.ext (y := (_, _)) h rfl⟩

end

theorem tests_flag_iff_flaggedJob : ∃ plan tree condition,
    localService.plan (workspaceAt "data/org/acme".toList) "daily_sales-160309-140507".toList
        (flaggedRequest "daily sales".toList) = .ok plan ∧
      Element.read plan.workflow.document = some tree ∧ tree.conditions = [condition] ∧
      tree.madeFiles = [flagPath plan.dir] ∧ testedPath? condition = some (flagPath plan.dir) := by
  have hdisk : localService.storage = diskStorage "data".toList := rfl
  have hplace : placeViolations "daily sales".toList "flows/app/".toList = [] := by decide
  have hopen : runOn (localService.openWorkspace "acme".toList) emptyDisk =
      (.ok (workspaceAt "data/org/acme".toList), emptyDisk) := rfl
  obtain ⟨s, hreserve⟩ := @flaggedJob_reserved "daily sales".toList "daily_sales-160309-140507".toList (by decide +kernel)
  obtain ⟨plan, hplan⟩ := @exists_plan_flaggedJob _ hplace "daily_sales-160309-140507".toList (by decide)
  obtain ⟨tree, condition, hread, hconditions, hmade, htests⟩ :=
    tests_flag_iff hdisk (by simp) (flaggedJob_accepted hplace) hopen hreserve hplan
  exact ⟨plan, tree, condition, hplan, hread, hconditions, hmade, htests.2 ⟨by decide, by decide, by decide⟩⟩

/-- A name may hold a quote, and then what is tested is not the file that is made. -/
theorem not_tests_flag :
    ¬∀ (service : Service DiskState Unit) (root org : Text) (now : LocalTime) (suffixes : List Text) (job : ScheduledJob)
        (normal : JobRequest) (workspace : Workspace DiskState) (s s₁ s₂ : ServiceState DiskState Unit) (id : Text)
        (plan : Plan),
      service.storage = diskStorage root → (∀ x ∈ suffixes, JobId.IsSuffix x) →
      service.accept (.recurring job) = .ok normal → runOn (service.openWorkspace org) s = (.ok workspace, s₁) →
      runOn (Service.reserveId workspace now suffixes normal.name) s₁ = (.ok id, s₂) →
      service.plan workspace id normal = .ok plan →
        ∃ tree condition flag, Element.read plan.workflow.document = some tree ∧ tree.conditions = [condition] ∧
          tree.madeFiles = [flag] ∧ testedPath? condition = some flag := by
  intro h
  have hplace : placeViolations "daily\"sales".toList "flows/app/".toList = [] := by decide
  obtain ⟨s, hreserve⟩ := @flaggedJob_reserved "daily\"sales".toList "daily\"sales-160309-140507".toList (by decide +kernel)
  obtain ⟨plan, hplan⟩ := @exists_plan_flaggedJob _ hplace "daily\"sales-160309-140507".toList (by decide)
  obtain ⟨tree, condition, flag, hread, hconditions, hmade, htests⟩ := h localService "data".toList "acme".toList
    (.sample 7) [] (flaggedJob "daily\"sales".toList) _ _ emptyDisk emptyDisk s _ plan rfl (by simp)
    (flaggedJob_accepted hplace) rfl hreserve hplan
  obtain ⟨tree', hread', hconditions', hmade'⟩ := Service.read_flags hplan
  cases hread.symm.trans hread'
  cases hconditions.symm.trans hconditions'
  cases hmade.symm.trans hmade'
  have hbare := testedPath?_self.1 htests
  rw [(Service.plan_place hplan).2.1] at hbare
  exact absurd hbare (by decide)

end DiskStorage

end ImportDispatch

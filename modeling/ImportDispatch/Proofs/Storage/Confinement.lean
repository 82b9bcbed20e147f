import ImportDispatch.Http.OrganizationId
import ImportDispatch.Proofs.Import.NormalForm
import ImportDispatch.Proofs.Service.Settled
import ImportDispatch.Proofs.Storage.Places
/-!
# No job leaves its organization

Every path of a job is the directory of its organization and names behind it (`Below`): the rules let nothing through
that would lead out, however separators stand in what the client chose, and what is joined to the directory never starts
at the root.  Two organizations have different names for their directories, so that no path of one lies in the directory
of the other (`confined`).
-/
namespace ImportDispatch

open Attempt (runOn)
open FileTree (segments)

/-- The path is the base and one or more names, a slash before each; the first slash may be the one that the base ends
in. -/
def Below (base path : Text) : Prop :=
  ∃ gap names, (gap = ['/'] ∨ gap = [] ∧ base.getLast? = some '/') ∧ names ≠ [] ∧ (∀ name ∈ names, IsName name) ∧
    path = base ++ gap ++ Text.join ['/'] names

theorem Below.of_along {base path : Text} {names : List Text} (hbase : base ≠ []) (hne : names ≠ [])
    (hnames : ∀ s ∈ names, IsName s) (h : DiskLayout.Along base names path) : Below base path := by
  unfold DiskLayout.Along DiskLayout.opening at h
  rw [← DiskLayout.join_closed hne, ← List.append_assoc] at h
  have hpath := List.append_cancel_right h
  by_cases hlast : base.getLast? = some '/'
  · refine ⟨[], names, .inr ⟨rfl, hlast⟩, hne, hnames, ?_⟩
    simpa [hlast] using hpath
  · refine ⟨['/'], names, .inl rfl, hne, hnames, ?_⟩
    simpa [hlast, hbase] using hpath

/-! ## The paths of a job -/

/-- What a job is given in a workspace: the directory of its workflow, the flag file and the file of connection
parameters in it, and the directory that it imports into. -/
def Workspace.pathsOf {σ : Type} (workspace : Workspace σ) (id : Text) (request : JobRequest) : List Text :=
  let dir := workspace.workflowDir id request.appDir
  [dir, flagPath dir, dir ++ '/' :: connectionParamsFile, workspace.targetDir id request.spec.targetDir]

/-! ## Two organizations -/

namespace DiskLayout

theorem org_isName : IsName "org".toList := ⟨by decide, by decide⟩

theorem home_eq (root : Text) {org : Text} (horg : IsName org) :
    DiskLayout.home root org = joinPath root "org".toList ++ '/' :: org := by
  obtain ⟨hne, hlast⟩ := joinPath_name root org_isName
  exact joinPath_open hne hlast horg.head

/-- **What lies below the directory of one organization does not lie in that of another.** -/
theorem not_within_other {root org other path : Text} (horg : IsName org) (hother : IsName other) (hne : other ≠ org)
    (h : Below (DiskLayout.home root org) path) : ¬ Within path (DiskLayout.home root other) := by
  obtain ⟨gap, names, hgap, -, -, rfl⟩ := h
  have hopen : (DiskLayout.home root org).getLast? ≠ some '/' := by
    rw [home_eq root horg, List.append_cons]
    exact getLast_of_name horg _
  obtain rfl : gap = ['/'] := hgap.resolve_right fun hg => hopen hg.2
  rintro ⟨more, hmore⟩
  rw [home_eq root horg, home_eq root hother] at hmore
  simp only [List.append_assoc, List.cons_append, List.nil_append] at hmore
  have hrest := (List.cons.inj (List.append_cancel_left hmore)).2
  exact hne (Text.first_mark hother.no_slash horg.no_slash hrest).1

end DiskLayout

/-! ## The names of organizations -/

namespace OrganizationId

theorem digits_of_ofText? {written org : Text} (h : ofText? written = some org) :
    ∃ digits, org = canonical digits ∧ digits.length = 32 ∧ ∀ c ∈ digits, Hexadecimal.isDigit c = true := by
  have hplain : ∀ {s digits : Text}, plain? s = some digits →
      digits.length = 32 ∧ ∀ c ∈ digits, Hexadecimal.isDigit c = true := by
    intro s digits hs
    unfold plain? at hs
    dsimp only at hs
    split at hs
    · rename_i hcheck
      cases hs
      simp only [Bool.and_eq_true, decide_eq_true_eq, List.all_eq_true] at hcheck
      exact hcheck.1
    · cases hs
  unfold ofText? at h
  obtain ⟨digits, hdigits, rfl⟩ := Option.map_eq_some_iff.1 h
  refine ⟨digits, rfl, ?_⟩
  unfold digits? at hdigits
  split at hdigits
  · rename_i hlength
    split at hdigits
    · rename_i hall
      cases hdigits
      exact ⟨hlength, List.all_eq_true.1 hall⟩
    · cases hdigits
  split at hdigits
  · exact hplain hdigits
  split at hdigits
  · split at hdigits
    · exact hplain hdigits
    · cases hdigits
  split at hdigits
  · split at hdigits
    · exact hplain hdigits
    · cases hdigits
  · cases hdigits

theorem mem_hyphenated {c : Char} : ∀ {sizes : List Nat} {digits : Text}, c ∈ hyphenated sizes digits →
    c = '-' ∨ c ∈ digits
  | [], _, h => by cases h
  | [_], _, h => .inr h
  | size :: next :: rest, digits, h => by
    simp only [hyphenated, List.mem_append, List.mem_cons] at h
    rcases h with h | h | h
    · exact .inr (List.mem_of_mem_take h)
    · exact .inl h
    · exact (mem_hyphenated h).imp_right List.mem_of_mem_drop

theorem not_slash_of_digit {c : Char} (h : Hexadecimal.isDigit c = true) : c.toLower ≠ '/' := by
  intro hlower
  obtain rfl : c = '/' := by
    delta Char.toLower at hlower
    split at hlower
    · rename_i hupper
      have hval := congrArg (·.val.toNat) hlower
      have hge : 65 ≤ c.toNat := hupper.1
      have hle : c.toNat ≤ 90 := hupper.2
      simp [UInt32.toNat_add] at hval
      omega
    · exact hlower
  revert h
  decide

theorem isName_of_ofText? {written org : Text} (h : ofText? written = some org) : IsName org := by
  obtain ⟨digits, rfl, -, hdigits⟩ := digits_of_ofText? h
  refine .of_dash (fun hslash => ?_) ?_
  · rcases mem_hyphenated hslash with hdash | hmem
    · revert hdash
      decide
    · obtain ⟨c, hc, hlower⟩ := List.mem_map.1 hmem
      exact not_slash_of_digit (hdigits c hc) hlower
  · exact List.mem_append_right _ List.mem_cons_self

end OrganizationId

/-! ## The rule on paths -/

/-- **What the rule on paths rejects**: a path that starts with a separator, and one with a stray part once the slashes
at its end are gone. -/
theorem pathViolation?_isSome {field path : Text} (hne : path ≠ []) : (pathViolation? field path).isSome ↔
    (path.head? = some '/' ∨ path.head? = some '\\') ∨
      ∃ front slashes part, path = front ++ List.replicate slashes '/' ∧ front.getLast? ≠ some '/' ∧
        Text.IsPiece isPathSeparator part front ∧ (part = [] ∨ part = ".".toList ∨ part = "..".toList) := by
  have hhead : path.head?.any isPathSeparator = true ↔ path.head? = some '/' ∨ path.head? = some '\\' := by
    cases path with
    | nil => exact absurd rfl hne
    | cons c rest => simp [isPathSeparator]
  have hstray : ∀ part : Text, isStraySegment part = true ↔ part = [] ∨ part = ".".toList ∨ part = "..".toList := by
    intro part
    simp [isStraySegment, or_assoc]
  have hparts : (Text.splitBy isPathSeparator (Text.trimEnd (· == '/') path)).any isStraySegment = true ↔
      ∃ front slashes part, path = front ++ List.replicate slashes '/' ∧ front.getLast? ≠ some '/' ∧
        Text.IsPiece isPathSeparator part front ∧ (part = [] ∨ part = ".".toList ∨ part = "..".toList) := by
    rw [List.any_eq_true]
    constructor
    · rintro ⟨part, hmem, hpart⟩
      obtain ⟨slashes, hpath, hlast⟩ := Text.exists_trimEnd '/' path
      exact ⟨_, slashes, part, hpath, hlast, Text.mem_splitBy_iff.1 hmem, (hstray part).1 hpart⟩
    · rintro ⟨front, slashes, part, rfl, hlast, hpiece, hpart⟩
      rw [Text.trimEnd_append_replicate hlast]
      exact ⟨part, Text.mem_splitBy_iff.2 hpiece, (hstray part).2 hpart⟩
  rw [← hhead, ← hparts]
  unfold pathViolation?
  rw [if_neg (by simpa using hne)]
  split
  · simp [*]
  split <;> simp [*]

/-! ## No job leaves its organization -/

namespace JobRequest

variable (registry : Registry) (username : Text)

theorem normal_appDir (request : JobRequest) : (request.normal registry username).appDir = request.appDir := by
  cases request <;> rfl

theorem normal_name (request : JobRequest) : (request.normal registry username).name = normalName request.name := by
  cases request <;> rfl

theorem normal_targetDir (request : JobRequest) :
    (request.normal registry username).spec.targetDir = request.spec.targetDir := by
  obtain ⟨name, hspec⟩ := request.exists_normal_spec registry username
  rw [hspec]
  exact request.spec.normal_targetDir registry

end JobRequest

namespace DiskStorage

theorem workspace_ok {root org : Text} {s s' : DiskState} {workspace : Workspace DiskState}
    (h : runOn (DiskStorage.workspace root org) s = (.ok workspace, s')) :
    workspace = workspaceAt (DiskLayout.home root org) := by
  unfold DiskStorage.workspace at h
  dsimp only at h
  rw [Attempt.runOn_bind, Attempt.runOn_get] at h
  dsimp only at h
  split at h
  · cases h
    rfl
  · rw [Attempt.runOn_bind, runOn_makeDirectories] at h
    rcases hmade : FileTree.makeDirectories (DiskLayout.home root org) s.tree with ⟨_ | _, tree⟩
    · rw [hmade] at h
      cases h
    · rw [hmade] at h
      cases h
      rfl

theorem flagName_isName : IsName flagName := .of_dash (by decide) (by decide)

/-- All paths of a job that breaks no rule on paths lie below its home. -/
theorem pathsOf_below {home id field field' : Text} {request : JobRequest} (hhome : home ≠ []) (hid : IsName id)
    (happDir : pathViolation? field request.appDir = none)
    (htargetDir : pathViolation? field' request.spec.targetDir = none) :
    ∀ path ∈ (workspaceAt home).pathsOf id request, Below home path := by
  have hbelow := DiskLayout.names_belowJob happDir
  have hchosen := DiskLayout.names_belowJob htargetDir
  have hnames := DiskLayout.names_of_job hid hbelow
  have hfile {name : Text} (hname : IsName name) :
      Below home (DiskLayout.workflowDir home id request.appDir ++ '/' :: name) :=
    .of_along hhome (List.append_ne_nil_of_right_ne_nil _ (List.cons_ne_nil name []))
      (List.forall_mem_append.2 ⟨hnames, List.forall_mem_singleton.2 hname⟩)
      ((DiskLayout.workflowDir_along hid hbelow).file name)
  intro path hpath
  simp only [Workspace.pathsOf, List.mem_cons, List.not_mem_nil, or_false] at hpath
  rcases hpath with rfl | rfl | rfl | rfl
  · exact .of_along hhome (List.cons_ne_nil _ _) hnames (DiskLayout.workflowDir_along hid hbelow)
  · exact hfile flagName_isName
  · exact hfile connectionParamsFile_isName
  · exact .of_along hhome (DiskLayout.targetNames_ne_nil id _) (DiskLayout.names_of_target hid hchosen)
      (DiskLayout.targetDir_along hid hchosen)

/-- **No job leaves its organization.**  Take any request that breaks no rule on places and specifications, the
workspace that any root hands out for its organization, and any id that is given out there for its normal name: all
paths of the job lie below the directory of the organization, and none of them in the directory of another
organization.  The rule on paths rejects nothing but paths that start with a separator or hold a stray part. -/
theorem confined {root org : Text} {s s' : DiskState} {workspace : Workspace DiskState}
    (hworkspace : runOn (DiskStorage.workspace root org) s = (.ok workspace, s')) (request : JobRequest)
    (hplace : placeViolations request.name request.appDir = []) (hspec : request.spec.violations = [])
    (registry : Registry) (username : Text) {now : LocalTime} {suffixes : List Text}
    (hsuffixes : ∀ x ∈ suffixes, JobId.IsSuffix x) {reserved reserved' : Reservations} {t t' : DiskState} {id : Text}
    (hid : runOn (JobId.reserve workspace now suffixes (request.normal registry username).name) (reserved, t) =
      (.ok id, (reserved', t'))) :
    (∀ path ∈ workspace.pathsOf id (request.normal registry username), Below workspace.home path ∧
      ∀ written written' other u u' (otherWorkspace : Workspace DiskState),
        OrganizationId.ofText? written = some org → OrganizationId.ofText? written' = some other → other ≠ org →
        runOn (DiskStorage.workspace root other) u = (.ok otherWorkspace, u') →
        ¬ DiskLayout.Within path otherWorkspace.home) ∧
    ∀ field path : Text, path ≠ [] → ((pathViolation? field path).isSome ↔
      (path.head? = some '/' ∨ path.head? = some '\\') ∨
        ∃ front slashes part, path = front ++ List.replicate slashes '/' ∧ front.getLast? ≠ some '/' ∧
          Text.IsPiece isPathSeparator part front ∧ (part = [] ∨ part = ".".toList ∨ part = "..".toList)) := by
  refine ⟨fun path hpath => ?_, fun field path => pathViolation?_isSome⟩
  obtain rfl := workspace_ok hworkspace
  obtain ⟨hname, happDir⟩ := placeViolations_eq_nil hplace
  have htargetDir : pathViolation? "targetDir".toList request.spec.targetDir = none := by
    have hnone := (List.append_eq_nil_iff.1 (List.append_eq_nil_iff.1 hspec).1).1
    cases hv : pathViolation? "targetDir".toList request.spec.targetDir with
    | none => rfl
    | some v => rw [hv] at hnone; cases hnone
  have hidName : IsName id := by
    rw [request.normal_name] at hid
    exact (JobId.reserve_ok hsuffixes hid).1.isName hname
  have hbelow : Below (DiskLayout.home root org) path := by
    rw [← request.normal_appDir registry username] at happDir
    rw [← request.normal_targetDir registry username] at htargetDir
    exact pathsOf_below (home_ne_nil root org) hidName happDir htargetDir path hpath
  refine ⟨hbelow, ?_⟩
  intro written written' other u u' otherWorkspace horg hother hne hopen
  obtain rfl := workspace_ok hopen
  exact DiskLayout.not_within_other (OrganizationId.isName_of_ofText? horg) (OrganizationId.isName_of_ofText? hother)
    hne hbelow

/-- A recurring request with places of its own, both written with slashes at the end. -/
def placedRequest : JobRequest := .recurring {
  name := "daily sales".toList
  appDir := "flows/app//".toList
  spec := {
    jdbcUri := "jdbc:db".toList
    table := "orders".toList
    importMode := "append".toList
    targetDir := "landing/sales/".toList }
  schedule := ⟨.sample 0, .sample 59, "UTC".toList, ⟨"hours".toList, 1⟩⟩ }

def placedOrganization : Text := "0f0e1a2b-3c4d-5e6f-7a8b-9c0d1e2f3a4b".toList

def otherOrganization : Text := "0f0e1a2b-3c4d-5e6f-7a8b-9c0d1e2f3a4c".toList

def placedHome : Text := DiskLayout.home "data".toList placedOrganization

/-- Its directories, and that all its paths are where they should be. -/
theorem confined_placedRequest :
    placeViolations placedRequest.name placedRequest.appDir = [] ∧ placedRequest.spec.violations = [] ∧
      DiskLayout.workflowDir placedHome "daily_sales-160309-140507".toList placedRequest.appDir =
        placedHome ++ "/oozie-jobs/daily_sales-160309-140507/flows/app".toList ∧
      DiskLayout.targetDir placedHome "daily_sales-160309-140507".toList placedRequest.spec.targetDir =
        placedHome ++ "/landing/sales".toList ∧
      ∀ path ∈ (workspaceAt placedHome).pathsOf "daily_sales-160309-140507".toList (placedRequest.normal [] []),
        Below placedHome path ∧ ¬ DiskLayout.Within path (DiskLayout.home "data".toList otherOrganization) := by
  have hworkspace : runOn (DiskStorage.workspace "data".toList placedOrganization) ⟨⟨[], []⟩, [placedOrganization]⟩ =
      (.ok (workspaceAt placedHome), ⟨⟨[], []⟩, [placedOrganization]⟩) := rfl
  have hopen : runOn (DiskStorage.workspace "data".toList otherOrganization) ⟨⟨[], []⟩, [otherOrganization]⟩ =
      (.ok (workspaceAt (DiskLayout.home "data".toList otherOrganization)), ⟨⟨[], []⟩, [otherOrganization]⟩) := rfl
  have hanswer : (runOn (JobId.reserve (workspaceAt placedHome) (.sample 7) [] "daily_sales".toList)
      ({}, ⟨⟨[], []⟩, []⟩)).1 = .ok "daily_sales-160309-140507".toList := by decide
  have hid := Prod.ext (y := (Except.ok "daily_sales-160309-140507".toList, (_, _))) hanswer rfl
  refine ⟨by decide, by decide, by decide, by decide, fun path hpath => ?_⟩
  obtain ⟨hbelow, hothers⟩ :=
    (confined hworkspace placedRequest (by decide) (by decide) [] [] (by simp) hid).1 path hpath
  exact ⟨hbelow, hothers placedOrganization otherOrganization otherOrganization _ _ _ (by decide) (by decide)
    (by decide) hopen⟩

end DiskStorage
end ImportDispatch

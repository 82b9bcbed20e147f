import ImportDispatch.Proofs.JobId.Run
import ImportDispatch.Proofs.Storage.Confinement
/-!
# Organizations do not see each other's ids

One set of reserved directories serves all organizations, and a call for one of them may empty it for all.  What an
organization gets shows nothing of that: the set is emptied only when the second is over, and then nothing in it counts
any more.  So two runs are compared, the run of all calls and the run of the calls for one organization.  Of its
directories the same ones are reserved in both, in the second of the clock and in every later one
(`Reservations.Agree`), and its answers are the same (`DiskCall.answersFor_filter`).
-/
namespace ImportDispatch

open Attempt (runOn)
open DiskStorage (placedOrganization otherOrganization)

/-! ## Directories of organizations -/

namespace DiskLayout

variable {root org other id id' : Text}

theorem workflowDir_along_root (horg : IsName org) (hid : IsName id) :
    Along (joinPath root "org".toList) [org, jobsFolder, id] (workflowDir (home root org) id []) := by
  have hhome := joinPath_name (joinPath root "org".toList) horg
  have hbelow : belowText [] = [] := rfl
  rw [workflowDir_eq hid (by simp), home, joinPath_open hhome.1 hhome.2 jobsFolder_isName.head, hbelow, List.append_nil]
  exact ((Along.single horg).file jobsFolder).file id

/-- The directory of a job tells its organization. -/
theorem org_eq_of_workflowDir_eq (horg : IsName org) (hother : IsName other) (hid : IsName id) (hid' : IsName id')
    (h : workflowDir (home root org) id [] = workflowDir (home root other) id' []) : org = other := by
  have hnames : ∀ {org id : Text}, IsName org → IsName id → ∀ s ∈ [org, jobsFolder, id], IsName s := by
    intro org id horg hid
    simp [horg, hid, jobsFolder_isName]
  have hwithin : Within (workflowDir (home root other) id' []) (workflowDir (home root org) id []) := by
    rw [h]
    exact List.prefix_rfl
  rw [within_iff (workflowDir_along_root hother hid') (workflowDir_along_root horg hid) (hnames hother hid')
    (hnames horg hid), List.cons_prefix_cons] at hwithin
  exact hwithin.1

end DiskLayout

/-! ## What a call depends on -/

namespace JobId

variable {σ : Type} {workspace : Workspace σ} {dirs dirs' : List Text}

/-- The search asks for the directories of the id and of what it may grow to, and for no others. -/
theorem firstFree_congr : ∀ {suffixes : List Text} {id : Text} {s : σ},
    (∀ grownBy, grownBy <+: suffixes →
      (workspace.workflowDir (grown id grownBy) [] ∈ dirs ↔ workspace.workflowDir (grown id grownBy) [] ∈ dirs')) →
    runOn (firstFree workspace dirs suffixes id) s = runOn (firstFree workspace dirs' suffixes id) s
  | suffixes, id, s, h => by
    have hask : ask workspace dirs (workspace.workflowDir id []) =
        ask workspace dirs' (workspace.workflowDir id []) := by
      have hid := h [] List.nil_prefix
      rw [grown_nil] at hid
      simp only [ask, List.elem_eq_mem, decide_eq_true_eq, hid]
    rw [firstFree_eq, firstFree_eq, hask, Attempt.runOn_bind, Attempt.runOn_bind]
    rcases runOn (ask workspace dirs' (workspace.workflowDir id [])) s with ⟨e | taken, s₁⟩
    · rfl
    · cases taken with
      | false => rfl
      | true =>
        cases suffixes with
        | nil => rfl
        | cons suffix rest =>
          exact firstFree_congr fun grownBy hp => h (suffix :: grownBy) (List.cons_prefix_cons.2 ⟨rfl, hp⟩)

namespace Call

/-- The directory that an answer reserves. -/
def reservedBy (call : Call) : Except ReservationError Text → List Text
  | .ok id => [call.workspace.workflowDir id []]
  | .error _ => []

theorem run_eq (reserved : Reservations) (call : Call) :
    (call.run reserved).1 = (runOn (firstFree call.workspace (reserved.inSecond call.now.stampText).dirs call.suffixes
        (base call.name call.now.stampText)) call.storage).1 ∧
      (call.run reserved).2.dirs =
        call.reservedBy (call.run reserved).1 ++ (reserved.inSecond call.now.stampText).dirs := by
  unfold run
  rw [reserve_eq]
  rcases runOn (firstFree call.workspace (reserved.inSecond call.now.stampText).dirs call.suffixes
    (base call.name call.now.stampText)) call.storage with ⟨e | id, s'⟩
  · exact ⟨rfl, rfl⟩
  · exact ⟨rfl, rfl⟩

end Call
end JobId

/-! ## Calls for organizations -/

/-- A call for an organization, whose workspace is a directory below the root. -/
structure DiskCall (root : Text) where
  org : Text
  call : JobId.Call
  org_isName : IsName org
  workflowDir_eq : call.workspace.workflowDir = DiskLayout.workflowDir (DiskLayout.home root org)
  name_no_slash : '/' ∉ call.name
  isSuffix : ∀ x ∈ call.suffixes, JobId.IsSuffix x

namespace DiskCall

variable {root org : Text}

/-- The answers to the calls for one organization, in a run of calls for many. -/
def answersFor (org : Text) : Reservations → List (DiskCall root) → List (Except ReservationError Text)
  | _, [] => []
  | reserved, c :: calls =>
    let answers := answersFor org (c.call.run reserved).2 calls
    if c.org = org then (c.call.run reserved).1 :: answers else answers

theorem isName_grown (c : DiskCall root) {grownBy : List Text} (h : grownBy <+: c.call.suffixes) :
    IsName (JobId.grown (JobId.base c.call.name c.call.now.stampText) grownBy) := by
  have hid : JobId.IsIdOf c.call.name c.call.now (JobId.grown (JobId.base c.call.name c.call.now.stampText) grownBy) :=
    ⟨grownBy, fun x hx => c.isSuffix x (h.subset hx), rfl⟩
  exact hid.isName c.name_no_slash

theorem mem_reservedBy {c : DiskCall root} {reserved : Reservations} {dir : Text}
    (h : dir ∈ c.call.reservedBy (c.call.run reserved).1) :
    ∃ id, IsName id ∧ dir = DiskLayout.workflowDir (DiskLayout.home root c.org) id [] := by
  cases hanswer : (c.call.run reserved).1 with
  | error e =>
    rw [hanswer] at h
    cases h
  | ok id =>
    rw [hanswer, JobId.Call.reservedBy, List.mem_singleton, c.workflowDir_eq] at h
    exact ⟨id, (JobId.Call.run_ok c.isSuffix hanswer).1.isName c.name_no_slash, h⟩

end DiskCall

/-! ## Two runs -/

namespace Reservations

variable {root org : Text} {first : Int} {last : LocalTime} {reserved reserved' : Reservations}

theorem dirs_of_other_stamp {stamp : Text} (h : reserved.stamp ≠ stamp) : (reserved.inSecond stamp).dirs = [] := by
  rw [inSecond, if_neg h]

/-- Of the directories of an organization the same are reserved in both runs, now and later.  `last` is the latest
reading of the clock; the second run has reserved at readings that were not later. -/
structure Agree (root org : Text) (first : Int) (last : LocalTime) (reserved reserved' : Reservations) : Prop where
  same : ∀ now : LocalTime, now.InCentury first → now.before last = false → ∀ id, IsName id →
    (DiskLayout.workflowDir (DiskLayout.home root org) id [] ∈ (reserved.inSecond now.stampText).dirs ↔
      DiskLayout.workflowDir (DiskLayout.home root org) id [] ∈ (reserved'.inSecond now.stampText).dirs)
  recent : reserved'.dirs = [] ∨
    ∃ time : LocalTime, time.InCentury first ∧ last.before time = false ∧ reserved'.stamp = time.stampText

theorem agree_empty (root org : Text) (first : Int) (last : LocalTime) : Agree root org first last {} {} where
  same _ _ _ _ _ := Iff.rfl
  recent := .inl rfl

theorem Agree.recent_stamp (h : Agree root org first last reserved reserved') {now later : LocalTime} {dir : Text}
    (hnow : now.InCentury first) (hlater : later.InCentury first) (hstep : now.before last = false)
    (hstep' : later.before now = false) (hmem : dir ∈ (reserved'.inSecond later.stampText).dirs) :
    later.stampText = now.stampText := by
  by_cases hstamp : reserved'.stamp = later.stampText
  · rcases h.recent with hnone | ⟨time, htime, hlast, htaken⟩
    · rw [inSecond_of_stamp hstamp, hnone] at hmem
      cases hmem
    · have hsame : later.stampText = time.stampText := hstamp.symm.trans htaken
      have hfirst := LocalTime.not_before_trans hlast hstep
      rw [hsame, LocalTime.stampText_between htime hnow hlater hfirst hstep' hsame]
  · rw [dirs_of_other_stamp hstamp] at hmem
    cases hmem

variable {c : DiskCall root}

/-- **A call for another organization** leaves the directories of this one alone, or drops them when their second is
over. -/
theorem Agree.other (h : Agree root org first last reserved reserved') (horg : IsName org) (hother : c.org ≠ org)
    (hcentury : c.call.now.InCentury first) (hstep : c.call.now.before last = false) :
    Agree root org first c.call.now (c.call.run reserved).2 reserved' where
  same now hnow hbefore id hid := by
    have hstamp := (c.call.run_grows reserved).1
    -- within the second of the call one more directory is reserved, and after it none of them counts in either run
    by_cases hsame : now.stampText = c.call.now.stampText
    · have hnot : DiskLayout.workflowDir (DiskLayout.home root org) id [] ∉
          c.call.reservedBy (c.call.run reserved).1 := by
        intro hmem
        obtain ⟨id', hid', heq⟩ := DiskCall.mem_reservedBy hmem
        exact hother (DiskLayout.org_eq_of_workflowDir_eq horg c.org_isName hid hid' heq).symm
      rw [inSecond_of_stamp (hstamp.trans hsame.symm), (c.call.run_eq reserved).2, List.mem_append, hsame,
        or_iff_right hnot]
      exact h.same c.call.now hcentury hstep id hid
    · rw [dirs_of_other_stamp (fun he => hsame (he.symm.trans hstamp))]
      exact iff_of_false List.not_mem_nil fun hmem => hsame (h.recent_stamp hcentury hnow hstep hbefore hmem)
  recent := h.recent.imp_right fun ⟨time, htime, hlast, htaken⟩ =>
    ⟨time, htime, LocalTime.not_before_trans hlast hstep, htaken⟩

/-- **A call for the organization** asks for its own directories only, so that it gets the same answer in both runs, and
reserves the same. -/
theorem Agree.own (h : Agree root org first last reserved reserved') (hown : c.org = org)
    (hcentury : c.call.now.InCentury first) (hstep : c.call.now.before last = false) :
    (c.call.run reserved).1 = (c.call.run reserved').1 ∧
      Agree root org first c.call.now (c.call.run reserved).2 (c.call.run reserved').2 := by
  subst hown
  have hanswer : (c.call.run reserved).1 = (c.call.run reserved').1 := by
    rw [(c.call.run_eq reserved).1, (c.call.run_eq reserved').1]
    refine congrArg Prod.fst (JobId.firstFree_congr fun grownBy hp => ?_)
    rw [c.workflowDir_eq]
    exact h.same c.call.now hcentury hstep _ (c.isName_grown hp)
  have hstamp := (c.call.run_grows reserved).1
  have hstamp' := (c.call.run_grows reserved').1
  refine ⟨hanswer, fun now hnow hbefore id hid => ?_,
    .inr ⟨c.call.now, hcentury, LocalTime.not_before_self c.call.now, hstamp'⟩⟩
  by_cases hsame : now.stampText = c.call.now.stampText
  · rw [inSecond_of_stamp (hstamp.trans hsame.symm), inSecond_of_stamp (hstamp'.trans hsame.symm),
      (c.call.run_eq reserved).2, (c.call.run_eq reserved').2, hanswer, List.mem_append, List.mem_append]
    exact or_congr_right (h.same c.call.now hcentury hstep id hid)
  · rw [dirs_of_other_stamp (fun he => hsame (he.symm.trans hstamp)),
      dirs_of_other_stamp (fun he => hsame (he.symm.trans hstamp'))]

end Reservations

namespace DiskCall

variable {root org : Text} {first : Int}

theorem answersFor_agree (horg : IsName org) : ∀ {calls : List (DiskCall root)} {reserved reserved' : Reservations}
    {last : LocalTime}, Reservations.Agree root org first last reserved reserved' →
    (∀ c ∈ calls, c.call.now.before last = false) → calls.Pairwise (fun c d => d.call.now.before c.call.now = false) →
    (∀ c ∈ calls, c.call.now.InCentury first) →
      answersFor org reserved calls = answersFor org reserved' (calls.filter (·.org = org))
  | [], _, _, _, _, _, _, _ => rfl
  | c :: calls, reserved, reserved', last, h, hafter, hclock, hcentury => by
    rw [List.forall_mem_cons] at hafter hcentury
    rw [List.pairwise_cons] at hclock
    by_cases hown : c.org = org
    · obtain ⟨hanswer, hagree⟩ := h.own hown hcentury.1 hafter.1
      rw [List.filter_cons_of_pos (by simpa using hown), answersFor, answersFor, if_pos hown, if_pos hown, hanswer,
        answersFor_agree horg hagree hclock.1 hclock.2 hcentury.2]
    · have hagree := h.other horg hown hcentury.1 hafter.1
      rw [List.filter_cons_of_neg (by simpa using hown), answersFor, if_neg hown,
        answersFor_agree horg hagree hclock.1 hclock.2 hcentury.2]

/-- **What an organization gets does not depend on the others**: in a run of calls for many, with any storages and
suffixes, its calls get the answers that they get if all other calls are left out. -/
theorem answersFor_filter {org : Text} (horg : IsName org) (first : Int) (calls : List (DiskCall root))
    (hclock : calls.Pairwise fun c d => d.call.now.before c.call.now = false)
    (hcentury : ∀ c ∈ calls, c.call.now.InCentury first) :
    answersFor org {} calls = answersFor org {} (calls.filter (·.org = org)) := by
  cases calls with
  | nil => rfl
  | cons c calls =>
    have hafter : ∀ d ∈ c :: calls, d.call.now.before c.call.now = false :=
      List.forall_mem_cons.2 ⟨LocalTime.not_before_self c.call.now, (List.pairwise_cons.1 hclock).1⟩
    exact answersFor_agree horg (Reservations.agree_empty root org first c.call.now) hafter hclock hcentury

/-- A call for the name `daily`, on an empty disk. -/
def sample (org : Text) (horg : IsName org) (second : Nat) : DiskCall "data".toList where
  org := org
  call := {
    workspace := DiskStorage.workspaceAt (DiskLayout.home "data".toList org)
    storage := ⟨⟨[], []⟩, []⟩
    now := .sample second
    suffixes := ["aB".toList, "c1".toList]
    name := "daily".toList }
  org_isName := horg
  workflowDir_eq := rfl
  name_no_slash := by
    show '/' ∉ "daily".toList
    decide
  isSuffix := by
    show ∀ x ∈ ["aB".toList, "c1".toList], JobId.IsSuffix x
    decide

theorem isName_placedOrganization : IsName placedOrganization := ⟨by decide, by decide⟩

theorem isName_otherOrganization : IsName otherOrganization := ⟨by decide, by decide⟩

/-- Calls for two organizations in one second, and in the next, where a call for the other one comes first. -/
def sampleCalls : List (DiskCall "data".toList) :=
  [sample _ isName_placedOrganization 7, sample _ isName_otherOrganization 7, sample _ isName_placedOrganization 7,
    sample _ isName_otherOrganization 8, sample _ isName_placedOrganization 8]

theorem answersFor_filter_sampleCalls :
    answersFor placedOrganization {} sampleCalls =
        [.ok "daily-160309-140507".toList, .ok "daily-160309-140507-aB".toList, .ok "daily-160309-140508".toList] ∧
      answersFor placedOrganization {} sampleCalls =
        answersFor placedOrganization {} (sampleCalls.filter (·.org = placedOrganization)) :=
  ⟨by decide +kernel, answersFor_filter isName_placedOrganization 2000 sampleCalls (by decide) (by decide)⟩

end DiskCall
end ImportDispatch

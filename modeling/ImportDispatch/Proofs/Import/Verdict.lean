import ImportDispatch.Proofs.Attempt
import ImportDispatch.Proofs.Import.NormalForm
import ImportDispatch.Service.Request
/-!
# The verdict on the normal form

A request is judged as the client sent it, and what is used afterwards is its normal form.  The rules would say the same
of that: it breaks the same rules in the same order, told about the name and the unit that it has now
(`JobRequest.violations_normal`).  A name holds no separator more or less for its underscores.  A unit is looked up by
the small letters that ASCII has, and the small letters that Unicode has lead to the same one.
-/
namespace ImportDispatch

/-- The violation of a request, told of its normal form. -/
def Violation.normal : Violation → Violation
  | nameNotDirectory name => nameNotDirectory (normalName name)
  | unknownUnit unit => unknownUnit (Text.lowercase unit)
  | other => other

theorem Violation.field_normal (v : Violation) : v.normal.field = v.field := by
  cases v <;> rfl

theorem map_violationIf (f : Violation → Violation) (condition : Bool) (v : Violation) :
    (violationIf condition v).map f = violationIf condition (f v) := by
  cases condition <;> rfl

/-! ## Places -/

theorem normalName_any_separator (name : Text) : (normalName name).any isPathSeparator = name.any isPathSeparator := by
  rw [normalName, List.any_map]
  congr 1
  funext c
  by_cases hblank : c = ' '
  · subst hblank
    rfl
  · simp [hblank]

/-- Dots stay dots, and nothing else becomes one. -/
theorem normalName_eq_dots_iff (n : Nat) {name : Text} :
    normalName name = List.replicate n '.' ↔ name = List.replicate n '.' := by
  constructor
  · intro h
    have hname : ∀ c ∈ name, (if c = ' ' then '_' else c) = c := by
      intro c hc
      have hmem : (if c = ' ' then '_' else c) ∈ List.replicate n '.' := by
        rw [← h]
        exact List.mem_map_of_mem hc
      have hdot := List.eq_of_mem_replicate hmem
      by_cases hblank : c = ' '
      · rw [if_pos hblank] at hdot
        exact absurd hdot (by decide)
      · exact if_neg hblank
    rw [← h, normalName, List.map_congr_left hname, List.map_id']
  · rintro rfl
    rw [normalName, List.map_replicate]
    rfl

theorem toList_pathViolation?_normal (field path : Text) :
    (pathViolation? field path).toList.map Violation.normal = (pathViolation? field path).toList := by
  unfold pathViolation?
  split
  · rfl
  split
  · rfl
  split <;> rfl

theorem placeViolations_normalName (name appDir : Text) :
    placeViolations (normalName name) appDir = (placeViolations name appDir).map Violation.normal := by
  have hdot : (normalName name == ".".toList) = (name == ".".toList) := by
    rw [Bool.eq_iff_iff, beq_iff_eq, beq_iff_eq]
    exact normalName_eq_dots_iff 1
  have hdots : (normalName name == "..".toList) = (name == "..".toList) := by
    rw [Bool.eq_iff_iff, beq_iff_eq, beq_iff_eq]
    exact normalName_eq_dots_iff 2
  rw [placeViolations, placeViolations, List.map_append, map_violationIf, toList_pathViolation?_normal,
    normalName_any_separator, hdot, hdots, Violation.normal]

/-! ## Specifications -/

namespace ImportSpec

/-- What the rules for specifications look at, and that no violation of theirs is about a name or a unit. -/
theorem violations_eq_map_normal {spec other : ImportSpec} (htarget : other.targetDir = spec.targetDir)
    (hmode : other.importMode = spec.importMode) (hcolumn : other.checkColumn = spec.checkColumn) :
    other.violations = spec.violations.map Violation.normal := by
  have hmodes : spec.modeViolations.map Violation.normal = spec.modeViolations := by
    unfold modeViolations
    split
    · rfl
    · exact map_violationIf _ _ _
  have hsame : other.mode? = spec.mode? := congrArg ImportMode.ofText? hmode
  have hmodes' : other.modeViolations = spec.modeViolations := by
    rw [modeViolations, modeViolations, hmode, hsame]
  rw [violations, violations, List.map_append, List.map_append, toList_pathViolation?_normal, hmodes, map_violationIf,
    htarget, hmodes', hsame, hcolumn]
  rfl

theorem directViolations_eq_map_normal {spec other : ImportSpec} (htarget : other.targetDir = spec.targetDir)
    (hmode : other.importMode = spec.importMode) (hcolumn : other.checkColumn = spec.checkColumn)
    (husername : other.username = spec.username) :
    other.directViolations = spec.directViolations.map Violation.normal := by
  rw [directViolations, directViolations, List.map_append, violations_eq_map_normal htarget hmode hcolumn,
    map_violationIf, husername]
  rfl

end ImportSpec

/-! ## Schedules -/

variable [ZoneDatabase]

/-- The rules for schedules look at the unit that a text names, and at the text itself to tell it. -/
theorem Schedule.violations_eq_map_normal (minimum : Nat) (schedule : Schedule) :
    { schedule with
      frequency := { schedule.frequency with unit := Text.lowercase schedule.frequency.unit } }.violations minimum =
        (schedule.violations minimum).map (List.map Violation.normal) := by
  generalize hother : { schedule with
    frequency := { schedule.frequency with unit := Text.lowercase schedule.frequency.unit } } = other
  have hunit : other.frequency.unit? = schedule.frequency.unit? := by
    rw [← hother]
    exact PeriodUnit.ofText?_lowercase_eq schedule.frequency.unit
  have hperiod : other.periodViolation? minimum = schedule.periodViolation? minimum := by
    rw [periodViolation?, periodViolation?, hunit, ← hother]
    rfl
  have hperiods : (schedule.periodViolation? minimum).toList.map Violation.normal =
      (schedule.periodViolation? minimum).toList := by
    unfold periodViolation?
    dsimp only
    split <;> rfl
  rw [violations, violations, hunit, hperiod, ← hother]
  show schedule.endsTooEarly.bind _ = _
  cases schedule.endsTooEarly with
  | error e => rfl
  | ok early =>
    simp only [bind, Except.bind, pure, Except.pure, Except.map, List.map_append, map_violationIf, hperiods]
    rfl

/-! ## Requests -/

/-- The normal form of a request breaks the rules that the request breaks, in the same order. -/
theorem JobRequest.violations_normal (registry : Registry) (username : Text) (minimum : Nat) (request : JobRequest) :
    (request.normal registry username).violations minimum =
      (request.violations minimum).map (List.map Violation.normal) := by
  cases request with
  | once job =>
    obtain ⟨hmode, -, -, hcolumn, husername⟩ := job.spec.normal_unchanged registry
    have htarget := job.spec.normal_targetDir registry
    have hspec := ImportSpec.directViolations_eq_map_normal htarget hmode hcolumn husername
    show Except.ok (placeViolations (normalName job.name) job.appDir ++ (job.spec.normal registry).directViolations) =
      .ok ((placeViolations job.name job.appDir ++ job.spec.directViolations).map Violation.normal)
    rw [List.map_append, placeViolations_normalName, hspec]
  | recurring job =>
    obtain ⟨hmode, -, -, hcolumn, -⟩ := job.spec.normal_unchanged registry
    have htarget := job.spec.normal_targetDir registry
    have hspec : ((job.spec.normal registry).withUsername username).violations =
        job.spec.violations.map Violation.normal := by
      obtain ⟨name, hname⟩ := (job.spec.normal registry).exists_withUsername username
      rw [hname]
      exact ImportSpec.violations_eq_map_normal htarget hmode hcolumn
    have hschedule := Schedule.violations_eq_map_normal minimum job.schedule
    show (job.normal registry username).violations minimum = (job.violations minimum).map (List.map Violation.normal)
    rw [ScheduledJob.violations, ScheduledJob.violations, ScheduledJob.normal, hschedule, placeViolations_normalName,
      hspec]
    cases job.schedule.violations minimum with
    | error e => rfl
    | ok ofSchedule => simp [bind, Except.bind, pure, Except.pure, Except.map]

/-- **The verdict on a request is the verdict on its normal form**: the same fields are rejected, in the same order, so
that the one is accepted where the other is.  The two rules that read what changes are indifferent to the change. -/
theorem JobRequest.verdict_normal (registry : Registry) (username : Text) (minimum : Nat) (request : JobRequest) :
    ((request.normal registry username).violations minimum).map (List.map Violation.field) =
        (request.violations minimum).map (List.map Violation.field) ∧
      ((request.normal registry username).violations minimum = .ok [] ↔ request.violations minimum = .ok []) ∧
      (∀ unit, PeriodUnit.ofText? (Text.lowercase unit) = PeriodUnit.ofText? unit) ∧
      ∀ name appDir, (placeViolations (normalName name) appDir).map Violation.field =
        (placeViolations name appDir).map Violation.field := by
  have hfield : Violation.field ∘ Violation.normal = Violation.field := funext Violation.field_normal
  refine ⟨?_, ?_, PeriodUnit.ofText?_lowercase_eq, fun name appDir => ?_⟩
  · rw [violations_normal]
    cases request.violations minimum with
    | error e => rfl
    | ok violations => simp [Except.map, hfield]
  · rw [violations_normal]
    cases request.violations minimum with
    | error e => simp [Except.map]
    | ok violations => simp [Except.map]
  · rw [placeViolations_normalName, List.map_map, hfield]

end ImportDispatch

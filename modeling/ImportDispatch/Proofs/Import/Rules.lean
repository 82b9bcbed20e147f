import ImportDispatch.Proofs.Schedule.CalendarEnd
import ImportDispatch.Proofs.Schedule.Period
import ImportDispatch.Proofs.Storage.Confinement
/-!
# The rules for recurring jobs, one by one

Ten rules are checked, in four places, and some of them read the same values: a mode may be blank or unknown, the check
column depends on the mode, times are compared in the zone if there is one, and a period is too short only in a unit that
is known.  Here every rule is stated on its own (`RecurringRule.Broken`).  What is told of a job are the fields of the
rules that it breaks, in the order of the rules, whatever else it breaks (`ScheduledJob.fields_violations`).
-/
namespace ImportDispatch

/-! ## What is wrong with a value -/

/-- A path that is set, and starts with a separator or has a stray part once the slashes at its end are gone. -/
def LeadsAstray (path : Text) : Prop :=
  path ≠ [] ∧ ((path.head? = some '/' ∨ path.head? = some '\\') ∨
    ∃ front slashes part, path = front ++ List.replicate slashes '/' ∧ front.getLast? ≠ some '/' ∧
      Text.IsPiece isPathSeparator part front ∧ (part = [] ∨ part = ".".toList ∨ part = "..".toList))

/-- The start does not come before the end. -/
inductive Schedule.StartsLate [ZoneDatabase] (schedule : Schedule) : Prop
  | instants {first last : LocalTime} (start : schedule.startInstant = .ok (some first))
      (stop : schedule.endInstant = .ok (some last)) (late : first.before last = false)
  /-- Without two instants, what the clocks show is compared. -/
  | clocks (apart : ∀ first last, schedule.startInstant = .ok (some first) → schedule.endInstant ≠ .ok (some last))
      (late : schedule.startTime.before schedule.endTime = false)

theorem ImportMode.ofText?_eq_some_iff {s : Text} {mode : ImportMode} :
    ofText? s = some mode ↔ Text.InAnyCase mode.name (Text.trimBlank s) :=
  Text.find?_named (by cases mode <;> decide) (by cases mode <;> rfl)

/-! ## The rules -/

/-- The rules for recurring jobs. -/
inductive RecurringRule
  | name | appDir | targetDir | mode | checkColumn | startTime | timezone | unit | amount | period
deriving DecidableEq, Repr

namespace RecurringRule

/-- All rules, in the order in which they are told. -/
def all : List RecurringRule :=
  [name, appDir, targetDir, mode, checkColumn, startTime, timezone, unit, amount, period]

/-- The field under which a broken rule is told. -/
def field : RecurringRule → Text
  | name => "name".toList
  | appDir => "appPath".toList
  | targetDir => "targetDir".toList
  | mode => "importMode".toList
  | checkColumn => "checkColumn".toList
  | startTime => "startTime".toList
  | timezone => "timezone".toList
  | unit => "frequency.unit".toList
  | amount => "frequency.amount".toList
  | period => "frequency".toList

/-- When a job breaks a rule. -/
def Broken [ZoneDatabase] (minimum : Nat) (job : ScheduledJob) : RecurringRule → Prop
  | name => ('/' ∈ job.name ∨ '\\' ∈ job.name) ∨ job.name = ".".toList ∨ job.name = "..".toList
  | appDir => LeadsAstray job.appDir
  | targetDir => LeadsAstray job.spec.targetDir
  | mode => ∀ mode : ImportMode, ¬Text.InAnyCase mode.name (Text.trimBlank job.spec.importMode)
  | checkColumn =>
    Text.InAnyCase "incremental".toList (Text.trimBlank job.spec.importMode) ∧ job.spec.checkColumn = []
  | startTime => job.schedule.StartsLate
  | timezone => ∀ named ∈ ZoneDatabase.zones, named.1 ≠ job.schedule.timezone
  | unit => ∀ unit : PeriodUnit, ¬Text.InAnyCase unit.name job.schedule.frequency.unit
  | amount => job.schedule.frequency.amount.toInt ≤ 0
  | period =>
    -- more seconds than a word with a sign holds are not told from the most that it holds
    Text.InAnyCase "minutes".toList job.schedule.frequency.unit ∧
      (job.schedule.frequency.amount.toInt * 60 < minimum ∨
        Word.largestSigned < job.schedule.frequency.amount.toInt * 60 ∧ Word.largestSigned < minimum)

end RecurringRule

/-! ## Checks -/

/-- A check that tells one violation, of the given field, if the condition holds, and none otherwise. -/
def TellsIf (p : Prop) (field : Text) (found : List Violation) : Prop :=
  p ∧ (∃ v : Violation, found = [v] ∧ v.field = field) ∨ ¬p ∧ found = []

theorem TellsIf.violationIf {p : Prop} {condition : Bool} (h : condition = true ↔ p) (v : Violation) :
    TellsIf p v.field (violationIf condition v) := by
  cases condition with
  | true => exact .inl ⟨h.1 rfl, v, rfl, rfl⟩
  | false => exact .inr ⟨fun hp => absurd (h.2 hp) (by simp), rfl⟩

theorem field_of_pathViolation? {field path : Text} {v : Violation} (h : pathViolation? field path = some v) :
    v.field = field := by
  unfold pathViolation? at h
  split at h
  · cases h
  split at h
  · cases h
    rfl
  split at h <;> cases h
  rfl

theorem TellsIf.path (field path : Text) : TellsIf (LeadsAstray path) field (pathViolation? field path).toList := by
  by_cases hpath : path = []
  · subst hpath
    exact .inr ⟨fun h => h.1 rfl, rfl⟩
  have hastray : (pathViolation? field path).isSome ↔ LeadsAstray path :=
    (pathViolation?_isSome hpath).trans (and_iff_right hpath).symm
  cases hv : pathViolation? field path with
  | none => exact .inr ⟨fun h => by simp [hv] at hastray; exact hastray h, rfl⟩
  | some v => exact .inl ⟨hastray.1 (by rw [hv]; rfl), v, rfl, field_of_pathViolation? hv⟩

theorem Schedule.startsLate_iff [ZoneDatabase] (schedule : Schedule) :
    schedule.endsTooEarly.toOption.getD (!schedule.startTime.before schedule.endTime) = true ↔ schedule.StartsLate := by
  rcases hearly : schedule.endsTooEarly with ⟨⟨⟩⟩ | early
  · have hnone : ∀ first last, schedule.startInstant = .ok (some first) → schedule.endInstant ≠ .ok (some last) := by
      intro first last hstart hend
      rcases endsTooEarly_eq_error.1 hearly with h | h
      · cases h.symm.trans hstart
      · cases h.symm.trans hend
    simp only [Except.toOption, Option.getD_none, Bool.not_eq_true']
    refine ⟨.clocks hnone, fun h => ?_⟩
    cases h with
    | instants hstart hend => exact absurd hend (hnone _ _ hstart)
    | clocks _ late => exact late
  · obtain ⟨first?, last?, hstart, hend, rfl⟩ := endsTooEarly_ok hearly
    simp only [Except.toOption, Option.getD_some]
    constructor
    · intro h
      split at h
      · exact .instants hstart hend (by simpa using h)
      · rename_i hnone
        refine .clocks (fun first last hfirst hlast => ?_) (by simpa using h)
        cases hstart.symm.trans hfirst
        cases hend.symm.trans hlast
        exact hnone first last rfl rfl
    · intro h
      cases h with
      | instants hfirst hlast late =>
        cases hstart.symm.trans hfirst
        cases hend.symm.trans hlast
        simpa using late
      | clocks apart late =>
        split
        · exact absurd hend (apart _ _ hstart)
        · simpa using late

theorem TellsIf.mode (spec : ImportSpec) :
    TellsIf (∀ mode : ImportMode, ¬Text.InAnyCase mode.name (Text.trimBlank spec.importMode)) "importMode".toList
      spec.modeViolations := by
  have hunknown : spec.mode? = none ↔
      ∀ mode : ImportMode, ¬Text.InAnyCase mode.name (Text.trimBlank spec.importMode) := by
    simp only [← ImportMode.ofText?_eq_some_iff, Option.eq_none_iff_forall_ne_some]
    rfl
  unfold ImportSpec.modeViolations
  split
  · rename_i hblank
    have hempty : Text.trimBlank spec.importMode = [] := by
      have hdrop : spec.importMode.dropWhile Text.isBlankChar = [] :=
        List.dropWhile_eq_nil_iff.2 (List.all_eq_true.1 hblank)
      rw [Text.trimBlank, Text.trimBoth, hdrop]
      rfl
    have hnone : spec.mode? = none := by
      rw [ImportSpec.mode?, ImportMode.ofText?, hempty]
      rfl
    exact .inl ⟨hunknown.1 hnone, .blankMode, rfl, rfl⟩
  · exact .violationIf (Option.isNone_iff_eq_none.trans hunknown) (.unknownMode spec.importMode)

namespace RecurringRule

/-- What is found when a rule is checked on its own. -/
def check [ZoneDatabase] (minimum : Nat) (job : ScheduledJob) : RecurringRule → List Violation
  | name => violationIf (job.name.any isPathSeparator || job.name == ".".toList || job.name == "..".toList)
      (.nameNotDirectory job.name)
  | appDir => (pathViolation? "appPath".toList job.appDir).toList
  | targetDir => (pathViolation? "targetDir".toList job.spec.targetDir).toList
  | mode => job.spec.modeViolations
  | checkColumn =>
    violationIf (job.spec.mode? == some .incremental && job.spec.checkColumn.isEmpty) .missingCheckColumn
  | startTime =>
    violationIf (job.schedule.endsTooEarly.toOption.getD (!job.schedule.startTime.before job.schedule.endTime))
      (.startNotBeforeEnd job.schedule.startTime job.schedule.endTime)
  | timezone => violationIf job.schedule.zone?.isNone (.unknownTimezone job.schedule.timezone)
  | unit => violationIf job.schedule.frequency.unit?.isNone (.unknownUnit job.schedule.frequency.unit)
  | amount => violationIf (job.schedule.frequency.amount.toInt ≤ 0) .amountNotPositive
  | period => (job.schedule.periodViolation? minimum).toList

variable [ZoneDatabase] (minimum : Nat) (job : ScheduledJob)

theorem broken_period_iff : period.Broken minimum job ↔
    job.schedule.frequency.unit? = some .minutes ∧ job.schedule.frequency.minuteSeconds < minimum := by
  have hminutes : job.schedule.frequency.unit? = some .minutes ↔
      Text.InAnyCase "minutes".toList job.schedule.frequency.unit := PeriodUnit.ofText?_eq_some_iff
  rw [Broken, ← hminutes, ← Word.saturate_lt_iff, ← Frequency.minuteSeconds]

/-- **A rule that is checked on its own is told exactly if it is broken**, and once. -/
theorem check_tells (rule : RecurringRule) : TellsIf (rule.Broken minimum job) rule.field (rule.check minimum job) := by
  cases rule with
  | name =>
    refine .violationIf ?_ (.nameNotDirectory job.name)
    have hseparator : job.name.any isPathSeparator = true ↔ '/' ∈ job.name ∨ '\\' ∈ job.name := by
      simp [isPathSeparator, and_or_left, exists_or]
    rw [Bool.or_eq_true, Bool.or_eq_true, beq_iff_eq, beq_iff_eq, hseparator, Broken, or_assoc]
  | appDir => exact .path _ _
  | targetDir => exact .path _ _
  | mode => exact .mode job.spec
  | checkColumn =>
    refine .violationIf ?_ .missingCheckColumn
    rw [Bool.and_eq_true, beq_iff_eq, List.isEmpty_iff, Broken]
    exact and_congr_left fun _ => ImportMode.ofText?_eq_some_iff
  | startTime => exact .violationIf job.schedule.startsLate_iff (.startNotBeforeEnd _ _)
  | timezone =>
    refine .violationIf ?_ (.unknownTimezone _)
    simp [Broken, Schedule.zone?, Zone.named?]
  | unit =>
    refine .violationIf ?_ (.unknownUnit _)
    simp only [Broken, ← PeriodUnit.ofText?_eq_some_iff, Option.isNone_iff_eq_none, Option.eq_none_iff_forall_ne_some]
    rfl
  | amount =>
    refine .violationIf ?_ .amountNotPositive
    exact decide_eq_true_iff
  | period =>
    have hbroken := broken_period_iff minimum job
    rw [check, Schedule.periodViolation?_eq]
    split
    · rename_i hshort
      exact .inl ⟨hbroken.2 hshort, _, rfl, rfl⟩
    · rename_i hlong
      exact .inr ⟨fun h => hlong (hbroken.1 h), rfl⟩

instance (rule : RecurringRule) : Decidable (rule.Broken minimum job) :=
  decidable_of_iff (rule.check minimum job ≠ []) (by
    rcases rule.check_tells minimum job with ⟨hbroken, v, hfound, -⟩ | ⟨hkept, hfound⟩ <;> simp [*])

/-- The rules that a job breaks, in their order. -/
def broken : List RecurringRule := all.filter (Broken minimum job)

theorem mem_broken {rule : RecurringRule} : rule ∈ broken minimum job ↔ rule.Broken minimum job := by
  have hall : rule ∈ all := by cases rule <;> decide
  simp [broken, hall]

/-- No two rules share a field. -/
theorem nodup_broken : ((broken minimum job).map field).Nodup := by
  have hall : (all.map field).Nodup := by decide
  exact hall.sublist (List.filter_sublist.map field)

theorem fields_flatMap (rules : List RecurringRule) : (rules.flatMap (check minimum job)).map Violation.field =
    (rules.filter (Broken minimum job)).map field := by
  induction rules with
  | nil => rfl
  | cons rule rules ih =>
    rw [List.flatMap_cons, List.map_append, ih, List.filter_cons]
    rcases rule.check_tells minimum job with ⟨hbroken, v, hfound, hfield⟩ | ⟨hkept, hfound⟩
    · simp [hbroken, hfound, hfield]
    · simp [hkept, hfound]

end RecurringRule

/-! ## Jobs -/

namespace ScheduledJob

variable [ZoneDatabase] {minimum : Nat} {job : ScheduledJob} {violations : List Violation}

/-- What is found in a job is what each rule finds on its own. -/
theorem violations_eq_flatMap (h : job.violations minimum = .ok violations) :
    violations = RecurringRule.all.flatMap (RecurringRule.check minimum job) := by
  obtain ⟨ofSchedule, hschedule, h⟩ := Attempt.bind_eq_ok h
  obtain ⟨early, hearly, hschedule⟩ := Attempt.bind_eq_ok hschedule
  rw [← Except.ok.inj h, ← Except.ok.inj hschedule]
  simp [RecurringRule.all, RecurringRule.check, placeViolations, ImportSpec.violations, hearly, Except.toOption]

/-- **The fields that are told of a job are those of the rules that it breaks**, in the order of the rules. -/
theorem fields_violations (h : job.violations minimum = .ok violations) :
    violations.map Violation.field = (RecurringRule.broken minimum job).map RecurringRule.field := by
  rw [violations_eq_flatMap h, RecurringRule.fields_flatMap, RecurringRule.broken]

end ScheduledJob
end ImportDispatch

import Mathlib.Control.Monad.Basic
import ImportDispatch.Coordinator
import ImportDispatch.Import.Rules
import ImportDispatch.Proofs.Attempt
import ImportDispatch.Proofs.Import.NormalForm
import ImportDispatch.Proofs.Schedule.Placement
import ImportDispatch.Zone.Selection
/-!
# From an accepted schedule to a coordinator

The rules and the draft of a coordinator read a schedule separately.  On the unit they agree, also after it has been
brought to small letters (`PeriodUnit.ofText?_lowercase`).  On the two times they do not: where a time has no instant,
the rules compare what the clocks show, while the draft fails.  `CoordinatorDraft.build_of_accepted` says when that
happens to a schedule that keeps the rules: away from the ends of the calendar, in a gap of more than an hour, more than
an hour before its end.  Apia, for one, left out a whole day (`apiaSkip`).
-/
namespace ImportDispatch

/-! ## Accepted schedules -/

namespace Schedule

variable [ZoneDatabase]

theorem endsTooEarly_ok {schedule : Schedule} {early : Bool} (h : schedule.endsTooEarly = .ok early) :
    ∃ startInstant? endInstant?, schedule.startInstant = .ok startInstant? ∧ schedule.endInstant = .ok endInstant? ∧
      early = match startInstant?, endInstant? with
        | some s, some e => !s.before e
        | _, _ => !schedule.startTime.before schedule.endTime := by
  obtain ⟨startInstant?, hstart, h⟩ := Attempt.bind_eq_ok h
  obtain ⟨endInstant?, hend, h⟩ := Attempt.bind_eq_ok h
  refine ⟨startInstant?, endInstant?, hstart, hend, ?_⟩
  cases startInstant? <;> cases endInstant? <;> exact (Except.ok.inj h).symm

/-- A schedule that keeps every rule. -/
theorem violations_eq_nil {minimum : Nat} {schedule : Schedule} :
    schedule.violations minimum = .ok [] ↔
      schedule.endsTooEarly = .ok false ∧ schedule.zone?.isSome ∧ schedule.frequency.unit?.isSome ∧
        0 < schedule.frequency.amount.toInt ∧ schedule.periodViolation? minimum = none := by
  constructor
  · intro h
    obtain ⟨early, hearly, h⟩ := Attempt.bind_eq_ok h
    have h : violationIf early _ ++ violationIf _ _ ++ violationIf _ _ ++ violationIf _ _ ++ Option.toList _ = [] :=
      Except.ok.inj h
    simp only [violationIf, List.append_eq_nil_iff, ite_eq_right_iff, reduceCtorEq, imp_false, Option.isNone_iff_eq_none,
      decide_eq_true_eq, Bool.not_eq_true, Option.toList_eq_nil_iff, ← Option.isSome_iff_ne_none] at h
    obtain ⟨⟨⟨⟨rfl, hzone⟩, hunit⟩, hamount⟩, hperiod⟩ := h
    exact ⟨hearly, hzone, hunit, by omega, hperiod⟩
  · rintro ⟨hearly, hzone, hunit, hamount, hperiod⟩
    have : ¬schedule.frequency.amount.toInt ≤ 0 := by omega
    rw [violations, hearly, hperiod]
    simp [violationIf, Option.isSome_iff_ne_none.1 hzone, Option.isSome_iff_ne_none.1 hunit, this]

end Schedule

/-! ## Coordinators -/

theorem CoordinatorDraft.build_schedule [ZoneDatabase] {schedule : Schedule} {unit : PeriodUnit}
    (hunit : schedule.frequency.unit? = some unit) (name appDir libPath : Text) :
    CoordinatorDraft.build { name? := some name, appDir? := some appDir, libPath, schedule? := some schedule } = (do
      let startInstant ← placed schedule.timezone schedule.startInstant
      let endInstant ← placed schedule.timezone schedule.endInstant
      return ⟨name, appDir, libPath, unit, schedule.frequency.amount, startInstant, endInstant, schedule.timezone⟩) := by
  simp only [CoordinatorDraft.build, hunit]
  rfl

/-- **An accepted schedule makes a coordinator, unless a time of it has no instant.**  Then the draft fails, and the
error is about the zone.  Away from the ends of the calendar it takes a gap of more than an hour in that zone, and a time
in it before the last hour of the gap. -/
theorem CoordinatorDraft.build_of_accepted [ZoneDatabase] {minimum : Nat} {job : ScheduledJob}
    (accepted : job.schedule.violations minimum = .ok []) (registry : Registry) (username name appDir libPath : Text) :
    let schedule := (job.normal registry username).schedule
    let built :=
      CoordinatorDraft.build { name? := some name, appDir? := some appDir, libPath, schedule? := some schedule }
    let unplaceable := DefinitionError.invalidSchedule (.unplaceable job.schedule.timezone)
    ((∃ unit startInstant endInstant, job.schedule.frequency.unit? = some unit ∧
        job.schedule.startInstant = .ok (some startInstant) ∧ job.schedule.endInstant = .ok (some endInstant) ∧
        built = .ok ⟨name, appDir, libPath, unit, job.schedule.frequency.amount, startInstant, endInstant,
          job.schedule.timezone⟩) ∨
      (job.schedule.startInstant = .ok none ∨ job.schedule.endInstant = .ok none) ∧ built = .error unplaceable) ∧
    ∃ zone, job.schedule.zone? = some zone ∧ (job.schedule.startTime.IsInner → job.schedule.endTime.IsInner →
      (built = .error unplaceable ↔
        zone.Misses job.schedule.startTime ∨ zone.Misses job.schedule.endTime)) := by
  intro schedule built unplaceable
  obtain ⟨hearly, hzone, hunit, -, -⟩ := Schedule.violations_eq_nil.1 accepted
  obtain ⟨startInstant?, endInstant?, hstart, hend, -⟩ := Schedule.endsTooEarly_ok hearly
  obtain ⟨zone, hzone⟩ := Option.isSome_iff_exists.1 hzone
  obtain ⟨unit, hunit⟩ := Option.isSome_iff_exists.1 hunit
  have hbuilt : built = (do
      let startInstant ← placed job.schedule.timezone (.ok startInstant?)
      let endInstant ← placed job.schedule.timezone (.ok endInstant?)
      return ⟨name, appDir, libPath, unit, job.schedule.frequency.amount, startInstant, endInstant,
        job.schedule.timezone⟩) := by
    rw [← hstart, ← hend]
    have hunit : schedule.frequency.unit? = some unit := PeriodUnit.ofText?_lowercase hunit
    exact CoordinatorDraft.build_schedule hunit name appDir libPath
  have hfails : built = .error unplaceable ↔ startInstant? = none ∨ endInstant? = none := by
    rw [hbuilt]
    cases startInstant? <;> cases endInstant? <;> simp [placed, unplaceable, bind, Except.bind, pure, Except.pure]
  refine ⟨?_, zone, hzone, fun innerStart innerEnd => ?_⟩
  · rw [hstart, hend]
    by_cases hnone : startInstant? = none ∨ endInstant? = none
    · exact .inr ⟨by simpa using hnone, hfails.2 hnone⟩
    · obtain ⟨startInstant, rfl⟩ := Option.ne_none_iff_exists'.1 (not_or.1 hnone).1
      obtain ⟨endInstant, rfl⟩ := Option.ne_none_iff_exists'.1 (not_or.1 hnone).2
      exact .inl ⟨unit, startInstant, endInstant, hunit, rfl, rfl, hbuilt⟩
  · have hstart : job.schedule.instantOf job.schedule.startTime = .ok startInstant? := hstart
    have hend : job.schedule.instantOf job.schedule.endTime = .ok endInstant? := hend
    rw [hfails, ← Schedule.instantOf_eq_none hzone innerStart, ← Schedule.instantOf_eq_none hzone innerEnd, hstart, hend,
      Except.ok.injEq, Except.ok.injEq]

/-- The day that the clocks of Apia left out: 30 December 2011. -/
def apiaSkip : Skip := ⟨1325203200, 1325289600⟩

/-- A recurring job that starts at noon of the day that Apia left out. -/
def skippedDayJob : ScheduledJob where
  name := "nightly".toList
  spec := { jdbcUri := "jdbc:mysql://db:3306/sales".toList, table := "orders".toList, importMode := "append".toList }
  schedule := {
    startTime := ⟨15338, 43200, 0, by decide, by decide, by decide, no_nanos_lt⟩
    endTime := ⟨15344, 0, 0, by decide, by decide, by decide, no_nanos_lt⟩
    timezone := "Pacific/Apia".toList
    frequency := ⟨"days".toList, 1⟩ }

theorem skippedDayJob_accepted : skippedDayJob.schedule.violations 300 = .ok [] :=
  Schedule.violations_eq_nil.2 ⟨by decide +kernel, by decide +kernel, by decide, by decide, by decide⟩

theorem CoordinatorDraft.build_of_accepted_skippedDayJob :
    skippedDayJob.schedule.violations 300 = .ok [] ∧
      CoordinatorDraft.build { name? := some "nightly".toList, appDir? := some "data/jobs/nightly".toList,
                               schedule? := some (skippedDayJob.normal [] fallbackUsername).schedule } =
        .error (.invalidSchedule (.unplaceable "Pacific/Apia".toList)) := by
  have decided := CoordinatorDraft.build_of_accepted skippedDayJob_accepted [] fallbackUsername "nightly".toList
    "data/jobs/nightly".toList sharedLibPath
  obtain ⟨-, zone, hzone, hfails⟩ := decided
  have hzone : zone = ZoneTable.apia := by
    have hapia : skippedDayJob.schedule.zone? = some ZoneTable.apia := by decide +kernel
    exact Option.some.inj (hzone.symm.trans hapia)
  have hskip : apiaSkip ∈ zone.skips := by
    rw [hzone]
    decide +kernel
  have hmisses : zone.Misses skippedDayJob.schedule.startTime := ⟨apiaSkip, hskip, by decide, by decide⟩
  exact ⟨skippedDayJob_accepted, (hfails (by decide) (by decide)).2 (.inl hmisses)⟩

/-- Keeping the rules is not enough for a coordinator. -/
theorem CoordinatorDraft.not_built_of_accepted :
    ¬∀ (minimum : Nat) (job : ScheduledJob), job.schedule.violations minimum = .ok [] →
      ∀ (registry : Registry) (username name appDir : Text), ∃ coordinator,
        CoordinatorDraft.build { name? := some name, appDir? := some appDir,
                                 schedule? := some (job.normal registry username).schedule } = .ok coordinator := by
  intro h
  obtain ⟨coordinator, hbuilt⟩ := h 300 skippedDayJob skippedDayJob_accepted [] fallbackUsername [] []
  have hunit : (skippedDayJob.normal [] fallbackUsername).schedule.frequency.unit? = some .days := by decide
  have hstart : (skippedDayJob.normal [] fallbackUsername).schedule.startInstant = .ok none := by decide +kernel
  rw [CoordinatorDraft.build_schedule hunit, hstart] at hbuilt
  cases hbuilt

end ImportDispatch

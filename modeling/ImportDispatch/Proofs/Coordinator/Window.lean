import ImportDispatch.Proofs.Coordinator.Build
import ImportDispatch.Proofs.Coordinator.Document
import ImportDispatch.Zone.Selection
/-!
# The window of a coordinator

The rules compare the instants of a schedule as they are, and the document of its coordinator gives them in whole
minutes.  So the document may say that a coordinator ends in the minute in which it starts, but never that it ends
before, and whenever the instants lie in different minutes, its start comes before its end
(`Coordinator.window_of_accepted`).
-/
namespace ImportDispatch

namespace LocalTime

/-- Minutes keep the order of readings, but not that two readings differ. -/
theorem toMinute_not_before {s t : LocalTime} (h : s.before t = true) : t.toMinute.before s.toMinute = false := by
  simp only [before, Bool.or_eq_true, Bool.and_eq_true, decide_eq_true_eq, beq_iff_eq] at h
  simp only [before, Bool.or_eq_false_iff, Bool.and_eq_false_iff, decide_eq_false_iff_not, beq_eq_false_iff_ne]
  simp only [toMinute]
  omega

theorem before_or_eq {s t : LocalTime} (h : t.before s = false) : s.before t = true ∨ s = t := by
  cases s
  cases t
  simp only [before, Bool.or_eq_false_iff, Bool.and_eq_false_iff, decide_eq_false_iff_not, beq_eq_false_iff_ne] at h
  simp only [before, Bool.or_eq_true, Bool.and_eq_true, decide_eq_true_eq, beq_iff_eq, LocalTime.mk.injEq]
  omega

theorem toMinute_before_iff {s t : LocalTime} (h : s.before t = true) :
    s.toMinute.before t.toMinute = true ↔ s.toMinute ≠ t.toMinute := by
  constructor
  · intro hbefore heq
    rw [heq, not_before_self] at hbefore
    cases hbefore
  · exact (before_or_eq (toMinute_not_before h)).resolve_right

end LocalTime

theorem Zone.instantFor_fixed_zero (t : LocalTime) : (Zone.fixed 0).instantFor t = .ok (some t) := by
  have : (Zone.fixed 0).earliest? t = some t := by
    rw [Zone.earliest?, Zone.instants, Zone.fixed, Zone.changes, List.flatMap_nil, instantsFrom]
    simp [LocalTime.ofSeconds?_seconds]
  rw [Zone.instantFor, this]

/-- The instants of a coordinator are those of the schedule that it is made of. -/
theorem CoordinatorDraft.instants_of_build [ZoneDatabase] {draft : CoordinatorDraft} {schedule : Schedule}
    {coordinator : Coordinator} (built : { draft with schedule? := some schedule }.build = .ok coordinator) :
    schedule.startInstant = .ok (some coordinator.startInstant) ∧
      schedule.endInstant = .ok (some coordinator.endInstant) := by
  obtain ⟨_, _, _, _, startInstant, endInstant, -, -, hschedule, -, hstart, hend, rfl⟩ :=
    CoordinatorDraft.build_eq_ok.1 built
  cases hschedule
  exact ⟨hstart, hend⟩

/-- **The document of an accepted schedule never ends before it starts**, and it starts before it ends unless both
instants lie in one minute. -/
theorem Coordinator.window_of_accepted [ZoneDatabase] {minimum : Nat} {schedule : Schedule} (draft : CoordinatorDraft)
    {coordinator : Coordinator} (accepted : schedule.violations minimum = .ok [])
    (built : { draft with schedule? := some schedule }.build = .ok coordinator) :
    ∃ startInstant endInstant root,
      schedule.startInstant = .ok (some startInstant) ∧ schedule.endInstant = .ok (some endInstant) ∧
      Markup.Element.read coordinator.document = some root ∧
      root.instant? "start" = some startInstant.toMinute ∧ root.instant? "end" = some endInstant.toMinute ∧
      endInstant.toMinute.before startInstant.toMinute = false ∧
      (startInstant.toMinute.before endInstant.toMinute = true ↔ startInstant.toMinute ≠ endInstant.toMinute) := by
  obtain ⟨hstart, hend⟩ := CoordinatorDraft.instants_of_build built
  obtain ⟨hearly, -⟩ := Schedule.violations_eq_nil.1 accepted
  obtain ⟨startInstant?, endInstant?, hstart', hend', hbefore⟩ := Schedule.endsTooEarly_ok hearly
  rw [hstart] at hstart'
  rw [hend] at hend'
  cases hstart'
  cases hend'
  have hbefore : coordinator.startInstant.before coordinator.endInstant = true := by simpa using hbefore
  obtain ⟨hfirst, hlast⟩ := coordinator.instants_element
  exact ⟨_, _, coordinator.element, hstart, hend, coordinator.read_document_eq, hfirst, hlast,
    LocalTime.toMinute_not_before hbefore, LocalTime.toMinute_before_iff hbefore⟩

/-- Every day from a quarter past eight on 4 July 2077 on, for less than an hour. -/
def shortSchedule (seconds : Nat) : Schedule where
  startTime := ⟨39266, 29700, 0, by decide, by decide, by decide, no_nanos_lt⟩
  endTime := ⟨39266, 29700 + seconds % 3600, 0, by decide, by decide, by omega, no_nanos_lt⟩
  timezone := "UTC".toList
  frequency := ⟨"days".toList, 1⟩

def shortDraft (seconds : Nat) : CoordinatorDraft where
  name? := some "nightly-coordinator".toList
  appDir? := some "/data/nightly".toList
  schedule? := some (shortSchedule seconds)

def shortCoordinator (seconds : Nat) : Coordinator :=
  ⟨"nightly-coordinator".toList, "/data/nightly".toList, sharedLibPath, .days, 1, (shortSchedule seconds).startTime,
    (shortSchedule seconds).endTime, "UTC".toList⟩

theorem unit_shortSchedule (seconds : Nat) : (shortSchedule seconds).frequency.unit? = some .days := by
  have : PeriodUnit.ofText? "days".toList = some .days := by decide
  exact this

theorem zone_shortSchedule (seconds : Nat) : (shortSchedule seconds).zone? = some (.fixed 0) := by
  have : Zone.named? "UTC".toList = some (.fixed 0) := by decide +kernel
  exact this

theorem instantOf_shortSchedule (seconds : Nat) (t : LocalTime) :
    (shortSchedule seconds).instantOf t = .ok (some t) := by
  rw [Schedule.instantOf, zone_shortSchedule]
  exact Zone.instantFor_fixed_zero t

theorem shortSchedule_accepted {seconds : Nat} (h : 0 < seconds % 3600) :
    (shortSchedule seconds).violations 300 = .ok [] := by
  have hearly : (shortSchedule seconds).endsTooEarly = .ok false := by
    have hbefore : (shortSchedule seconds).startTime.before (shortSchedule seconds).endTime = true := by
      simpa [shortSchedule, LocalTime.before] using h
    rw [Schedule.endsTooEarly, Schedule.startInstant, Schedule.endInstant, instantOf_shortSchedule,
      instantOf_shortSchedule]
    simp [bind, Except.bind, pure, Except.pure, hbefore]
  rw [Schedule.violations_eq_nil]
  have hunit := unit_shortSchedule seconds
  exact ⟨hearly, by rw [zone_shortSchedule]; rfl, by rw [hunit]; rfl, (by decide : 0 < (1 : Int64).toInt),
    by simp [Schedule.periodViolation?, hunit]⟩

theorem shortDraft_built (seconds : Nat) : (shortDraft seconds).build = .ok (shortCoordinator seconds) := by
  rw [shortDraft, CoordinatorDraft.build_schedule (unit_shortSchedule seconds), Schedule.startInstant,
    Schedule.endInstant, instantOf_shortSchedule, instantOf_shortSchedule]
  rfl

theorem Coordinator.window_of_accepted_shortSchedule : ∃ startInstant endInstant root,
    Markup.Element.read (shortCoordinator 90).document = some root ∧
      root.instant? "start" = some startInstant ∧ root.instant? "end" = some endInstant ∧
      startInstant.before endInstant = true := by
  obtain ⟨startInstant, endInstant, root, hstart, hend, hroot, hfirst, hlast, -, hiff⟩ :=
    Coordinator.window_of_accepted (shortDraft 90) (shortSchedule_accepted (by decide)) (shortDraft_built 90)
  rw [Schedule.startInstant, instantOf_shortSchedule] at hstart
  rw [Schedule.endInstant, instantOf_shortSchedule] at hend
  cases hstart
  cases hend
  exact ⟨_, _, root, hroot, hfirst, hlast, hiff.2 (by decide)⟩

/-- A schedule of half a minute is accepted, and in its document it ends when it starts. -/
theorem Coordinator.not_window_of_accepted :
    ¬∀ (minimum : Nat) (schedule : Schedule) (draft : CoordinatorDraft) (coordinator : Coordinator),
      schedule.violations minimum = .ok [] →
      { draft with schedule? := some schedule }.build = .ok coordinator →
        ∃ startInstant endInstant root, Markup.Element.read coordinator.document = some root ∧
          root.instant? "start" = some startInstant ∧ root.instant? "end" = some endInstant ∧
          startInstant.before endInstant = true := by
  intro h
  obtain ⟨startInstant, endInstant, root, hroot, hfirst, hlast, hbefore⟩ :=
    h 300 (shortSchedule 30) (shortDraft 30) _ (shortSchedule_accepted (by decide)) (shortDraft_built 30)
  rw [Coordinator.read_document_eq] at hroot
  cases hroot
  rw [(Coordinator.instants_element _).1] at hfirst
  rw [(Coordinator.instants_element _).2] at hlast
  cases hfirst
  cases hlast
  exact absurd hbefore (by decide)

end ImportDispatch

import ImportDispatch.Proofs.Coordinator.Build
import ImportDispatch.Wire.Requests
import ImportDispatch.Zone.Selection
/-!
# Schedules at the end of the calendar

A reading that no instant shows is tried again an hour later, and in the last hour of the calendar there is no later
hour.  The clocks have long settled there, so that a reading has its one instant unless they stand behind UTC and the
instant falls behind the end (`Zone.earliest?_settled`).  Of the regular zones, those that stay west of UTC are the ones
where that happens, and it happens in the whole last hour; the rules for a schedule and the coordinator for it come to
no result then (`Schedule.beyond_calendar_iff`).  The other end of the calendar has nothing like it: an hour later than
the first readings is always a reading.
-/
namespace ImportDispatch

/-! ## Readings -/

namespace LocalTime

/-- No reading is an hour later. -/
def InLastHour (t : LocalTime) : Prop := t.day = Day.last ∧ 82800 ≤ t.second

instance (t : LocalTime) : Decidable t.InLastHour := inferInstanceAs (Decidable (_ ∧ _))

theorem ofSeconds?_eq_none {seconds : Int} {nano : Nat} (hnano : nano < 2000000000) :
    ofSeconds? seconds nano = none ↔ seconds < Day.first * 86400 ∨ (Day.last + 1) * 86400 ≤ seconds := by
  rw [ofSeconds?, make?]
  split
  · simp only [reduceCtorEq, false_iff]
    omega
  · simp only [true_iff]
    omega

theorem hourLater?_eq_none {t : LocalTime} : t.hourLater? = none ↔ t.InLastHour := by
  have := t.nano_lt
  have := t.day_ge
  have := t.day_le
  have := t.second_lt
  rw [hourLater?, ofSeconds?_eq_none (by split <;> omega), seconds, InLastHour]
  omega

end LocalTime

/-! ## Clocks that have settled -/

theorem settled_of_steady : ∀ {since : Option Int} {offset : Int} {changes : List (Int × Int)},
    steadyFrom since offset changes → -86400 < settledFrom offset changes ∧ settledFrom offset changes < 86400
  | _, _, [], h => offset_of_steady h
  | _, _, (_, _) :: _, h => by
    rw [settledFrom]
    exact settled_of_steady (steadyFrom_cons.1 h).2.2

/-- A day or more behind all changes, a reading is shown at one instant. -/
theorem instantsFrom_settled {shown : Int} : ∀ {since : Option Int} {offset : Int} {changes : List (Int × Int)},
    steadyFrom since offset changes → (∀ start ∈ since, start + 86400 ≤ shown) →
      (∀ change ∈ changes, change.1 + 86400 ≤ shown) →
      instantsFrom since offset changes shown = [shown - settledFrom offset changes]
  | since, offset, [], h, hsince, _ => by
    have bounds := offset_of_steady h
    -- an offset is shorter than a day, so what is shown a day behind the last change is an instant behind it
    have begun : hasBegun since (shown - offset) := by
      cases since with
      | none => rfl
      | some start =>
        have := hsince start rfl
        rw [hasBegun_some]
        omega
    rw [instantsFrom_nil, if_pos begun, settledFrom]
  | since, offset, (next, after) :: rest, h, _, hchanges => by
    obtain ⟨bounds, -, steady⟩ := steadyFrom_cons.1 h
    have hnext : next + 86400 ≤ shown := hchanges (next, after) List.mem_cons_self
    rw [instantsFrom_cons, if_neg (by omega), settledFrom]
    exact instantsFrom_settled steady (by simpa using hnext) fun change hmem =>
      hchanges change (List.mem_cons_of_mem _ hmem)

namespace Zone

variable {zone : Zone} {t : LocalTime}

/-- In the last hour of the calendar a reading has no instant exactly if the clocks are so far behind UTC that it would
fall behind the end. -/
theorem earliest?_settled (steady : zone.isSteady) (settles : zone.Settles) (hlast : t.InLastHour) :
    zone.earliest? t = none ↔ 86400 ≤ t.second - zone.settled := by
  obtain ⟨hday, hsecond⟩ := hlast
  have bounds : -86400 < zone.settled ∧ zone.settled < 86400 := settled_of_steady steady
  have hrange : Day.first + 2 ≤ Day.last := by decide
  have hlate : ∀ change ∈ zone.changes, change.1 + 86400 ≤ t.seconds := by
    intro change hmem
    have := settles change hmem
    rw [LocalTime.seconds, hday]
    omega
  have hinstants : zone.instants t.seconds = [t.seconds - zone.settled] :=
    instantsFrom_settled steady (by simp) hlate
  rw [earliest?, hinstants]
  change LocalTime.ofSeconds? (t.seconds - zone.settled) t.nano = none ↔ _
  rw [LocalTime.ofSeconds?_eq_none t.nano_lt, LocalTime.seconds, hday]
  omega

/-- **The second try leaves the calendar** exactly in its last hour, where the clocks are far enough behind UTC. -/
theorem instantFor_eq_error (steady : zone.isSteady) (settles : zone.Settles) :
    zone.instantFor t = .error .reached ↔ t.InLastHour ∧ 86400 ≤ t.second - zone.settled := by
  have hsplit : zone.instantFor t = .error .reached ↔ zone.earliest? t = none ∧ t.hourLater? = none := by
    rw [instantFor]
    split
    · simp [*]
    split <;> simp [*]
  rw [hsplit, LocalTime.hourLater?_eq_none, and_comm]
  exact and_congr_right fun hlast => earliest?_settled steady settles hlast

/-- In a regular zone that is the whole last hour if the clocks stay behind UTC. -/
theorem IsRegular.instantFor_eq_error (regular : zone.IsRegular) :
    zone.instantFor t = .error .reached ↔ t.InLastHour ∧ zone.settled < 0 := by
  rw [Zone.instantFor_eq_error regular.steady regular.settles]
  refine and_congr_right fun ⟨_, hsecond⟩ => ?_
  have := t.second_lt
  have := regular.west
  omega

end Zone

/-! ## Schedules -/

namespace Schedule

variable [ZoneDatabase]

/-- The time lies in the last hour of the calendar, in a zone that stays west of UTC. -/
def RunsOut (schedule : Schedule) (shown : LocalTime) : Prop :=
  shown.InLastHour ∧ ∃ zone, schedule.zone? = some zone ∧ zone.settled < 0

theorem instantOf_eq_error {schedule : Schedule} {shown : LocalTime} :
    schedule.instantOf shown = .error .reached ↔ schedule.RunsOut shown := by
  rw [instantOf, RunsOut]
  cases hzone : schedule.zone? with
  | none => simp
  | some zone => simp [(Zone.regular_of_named hzone).instantFor_eq_error]

theorem endsTooEarly_eq_error {schedule : Schedule} : schedule.endsTooEarly = .error .reached ↔
    schedule.startInstant = .error .reached ∨ schedule.endInstant = .error .reached := by
  rw [endsTooEarly, Attempt.bind_eq_error]
  rcases hstart : schedule.startInstant with ⟨⟨⟩⟩ | startInstant?
  · simp
  rcases hend : schedule.endInstant with ⟨⟨⟩⟩ | endInstant?
  · simp [bind, Except.bind]
  · cases startInstant? <;> cases endInstant? <;> simp [bind, Except.bind, pure, Except.pure]

theorem violations_eq_error {schedule : Schedule} {minimum : Nat} : schedule.violations minimum = .error .reached ↔
    schedule.startInstant = .error .reached ∨ schedule.endInstant = .error .reached := by
  rw [← endsTooEarly_eq_error, violations, Attempt.bind_eq_error]
  simp [pure, Except.pure]

end Schedule

/-! ## Coordinators -/

theorem placed_eq_ok {timezone : Text} {instant? : Except CalendarEnd (Option LocalTime)} {instant : LocalTime} :
    placed timezone instant? = .ok instant ↔ instant? = .ok (some instant) := by
  rcases instant? with ⟨⟨⟩⟩ | _ | _ <;> simp [placed]

theorem placed_eq_beyond {timezone : Text} {instant? : Except CalendarEnd (Option LocalTime)} :
    placed timezone instant? = .error .beyondCalendar ↔ instant? = .error .reached := by
  rcases instant? with ⟨⟨⟩⟩ | _ | _ <;> simp [placed]

theorem CoordinatorDraft.build_eq_beyond [ZoneDatabase] {draft : CoordinatorDraft} {schedule : Schedule} :
    { draft with schedule? := some schedule }.build = .error .beyondCalendar ↔
      draft.name?.isSome ∧ draft.appDir?.isSome ∧ schedule.frequency.unit?.isSome ∧
        (schedule.startInstant = .error .reached ∨
          (∃ instant, schedule.startInstant = .ok (some instant)) ∧ schedule.endInstant = .error .reached) := by
  obtain ⟨name?, appDir?, libPath, other?⟩ := draft
  cases name? with
  | none => simp [build]
  | some name =>
    cases appDir? with
    | none => simp [build]
    | some appDir =>
      cases hunit : schedule.frequency.unit? with
      | none => simp [build, hunit, bind, Except.bind]
      | some unit =>
        rw [build_schedule hunit]
        simp [Attempt.bind_eq_error, placed_eq_ok, placed_eq_beyond, pure, Except.pure]

/-! ## Beyond the calendar -/

/-- **A schedule leaves the calendar exactly if a time of it lies in the last hour, in a zone that stays west of UTC.**
Then that time has no instant to tell, and the rules tell no violations.  The coordinator comes to it unless something
else is wrong before: a part of the draft is missing, the unit is unknown, or the start has no instant. -/
theorem Schedule.beyond_calendar_iff [ZoneDatabase] (schedule : Schedule) (minimum : Nat) (draft : CoordinatorDraft) :
    (schedule.startInstant = .error .reached ↔ schedule.RunsOut schedule.startTime) ∧
      (schedule.endInstant = .error .reached ↔ schedule.RunsOut schedule.endTime) ∧
      (schedule.violations minimum = .error .reached ↔
        schedule.RunsOut schedule.startTime ∨ schedule.RunsOut schedule.endTime) ∧
      ({ draft with schedule? := some schedule }.build = .error .beyondCalendar ↔
        draft.name?.isSome ∧ draft.appDir?.isSome ∧ schedule.frequency.unit?.isSome ∧
          (schedule.RunsOut schedule.startTime ∨
            (∃ instant, schedule.startInstant = .ok (some instant)) ∧ schedule.RunsOut schedule.endTime)) := by
  have hstart : schedule.startInstant = .error .reached ↔ schedule.RunsOut schedule.startTime := instantOf_eq_error
  have hend : schedule.endInstant = .error .reached ↔ schedule.RunsOut schedule.endTime := instantOf_eq_error
  refine ⟨hstart, hend, ?_, ?_⟩
  · rw [violations_eq_error, hstart, hend]
  · rw [CoordinatorDraft.build_eq_beyond, hstart, hend]

/-- A recurring job in the last hour of the calendar, as a client writes it. -/
def lateSource : Json := .record [
  ("name", .string "nightly".toList),
  ("schedule", .record [
    ("endTime", .string "+262142-12-31T23:30:00".toList),
    ("frequency", .record [("amount", .int 1), ("unit", .string "days".toList)]),
    ("startTime", .string "+262142-12-31T23:00:00".toList), ("timezone", .string "America/New_York".toList)]),
  ("sqoopImport", .record [
    ("jdbcUri", .string "jdbc:mysql://db:3306/sales".toList), ("table", .string "orders".toList)])]

def lateJob : ScheduledJob where
  name := "nightly".toList
  spec := { jdbcUri := "jdbc:mysql://db:3306/sales".toList, table := "orders".toList }
  schedule := {
    startTime := ⟨Day.last, 82800, 0, by decide, by decide, by decide, no_nanos_lt⟩
    endTime := ⟨Day.last, 84600, 0, by decide, by decide, by decide, no_nanos_lt⟩
    timezone := "America/New_York".toList
    frequency := ⟨"days".toList, 1⟩ }

/-- Not every job that can be read has times that the rules can compare. -/
theorem Schedule.not_within_calendar :
    ¬∀ (source : Json) (job : ScheduledJob), ScheduledJob.decode source = .ok job →
      ∀ minimum : Nat, ∃ violations, job.schedule.violations minimum = .ok violations := by
  intro h
  obtain ⟨violations, hviolations⟩ := h lateSource lateJob (by decide +kernel) 300
  have hstart : lateJob.schedule.startInstant = .error .reached := by decide +kernel
  rw [violations_eq_error.2 (.inl hstart)] at hviolations
  cases hviolations

end ImportDispatch

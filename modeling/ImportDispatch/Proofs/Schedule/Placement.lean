import ImportDispatch.Proofs.Zone.Clock
import ImportDispatch.Schedule
/-!
# Which wall-clock times have an instant

A schedule looks for the instant that shows a reading, and if there is none it tries again an hour later.  Away from
the ends of the calendar that fails only for readings in a skip of more than an hour, its last hour excepted
(`Zone.instantFor_eq_none`).
-/
namespace ImportDispatch

theorem no_nanos_lt : 0 < 2000000000 := by decide

namespace LocalTime

/-- Two days or more from the ends of the calendar. -/
def IsInner (t : LocalTime) : Prop := Day.first + 2 ≤ t.day ∧ t.day + 2 ≤ Day.last

instance (t : LocalTime) : Decidable t.IsInner := inferInstanceAs (Decidable (_ ∧ _))

theorem ofSeconds?_inner {t : LocalTime} (inner : t.IsInner) {seconds : Int} {nano : Nat}
    (near : t.seconds - 86400 < seconds ∧ seconds < t.seconds + 90000) (hnano : nano < 2000000000) :
    ∃ u, ofSeconds? seconds nano = some u ∧ u.seconds = seconds := by
  have := t.second_lt
  obtain ⟨hfirst, hlast⟩ := inner
  unfold LocalTime.seconds at near
  rw [ofSeconds?, make?, dif_pos ⟨⟨by omega, by omega⟩, by omega, hnano⟩]
  refine ⟨_, rfl, ?_⟩
  simp only [LocalTime.seconds]
  omega

/-- Moving a reading by an hour never leaves the calendar if the reading is two days inside. -/
theorem hourLater?_inner {t : LocalTime} (inner : t.IsInner) :
    ∃ later, t.hourLater? = some later ∧ later.seconds = t.seconds + 3600 := by
  have := t.nano_lt
  exact ofSeconds?_inner inner (by omega) (by split <;> omega)

end LocalTime

/-! ## Readings without an instant -/

theorem Zone.earliest?_eq_none {zone : Zone} (steady : zone.isSteady) {t shown : LocalTime} (inner : t.IsInner)
    (near : shown.seconds = t.seconds ∨ shown.seconds = t.seconds + 3600) :
    zone.earliest? shown = none ↔ zone.instants shown.seconds = [] := by
  rw [Zone.earliest?]
  cases hinstants : zone.instants shown.seconds with
  | nil => simp
  | cons instant others =>
    have hnear := instantsFrom_near steady (hinstants ▸ List.mem_cons_self : instant ∈ zone.instants shown.seconds)
    have hnear : t.seconds - 86400 < instant ∧ instant < t.seconds + 90000 := by omega
    obtain ⟨utc, hutc, -⟩ := LocalTime.ofSeconds?_inner inner hnear shown.nano_lt
    simp [hutc]

/-- A reading in a skip of more than an hour, but not in its last hour: the second try lands in the skip as well. -/
def Zone.Misses (zone : Zone) (shown : LocalTime) : Prop :=
  ∃ skip ∈ zone.skips, skip.first ≤ shown.seconds ∧ shown.seconds + 3600 < skip.behind

/-- **A reading away from the ends of the calendar has no instant exactly if both tries land in one skip.** -/
theorem Zone.instantFor_eq_none {zone : Zone} (steady : zone.isSteady) {shown : LocalTime} (inner : shown.IsInner) :
    zone.instantFor shown = .ok none ↔ zone.Misses shown := by
  obtain ⟨later, hlater, hseconds⟩ := LocalTime.hourLater?_inner inner
  have now := (Zone.earliest?_eq_none steady inner (.inl rfl)).trans (Zone.instants_eq_nil steady)
  have anHourLater := (Zone.earliest?_eq_none steady inner (.inr hseconds)).trans (Zone.instants_eq_nil steady)
  rw [hseconds] at anHourLater
  rw [Zone.instantFor]
  constructor
  · intro h
    split at h
    · simp at h
    · rename_i hnone
      rw [hlater] at h
      obtain ⟨skip, hskip, hfirst, hbehind⟩ := now.1 hnone
      obtain ⟨skip', hskip', hfirst', hbehind'⟩ := anHourLater.1 (by simpa using h)
      rcases skips_apart steady hskip hskip' with rfl | hapart
      · exact ⟨skip, hskip, hfirst, hbehind'⟩
      · omega
  · rintro ⟨skip, hskip, hfirst, hbehind⟩
    rw [now.2 ⟨skip, hskip, hfirst, by omega⟩, hlater]
    exact congrArg _ (anHourLater.2 ⟨skip, hskip, by omega, hbehind⟩)

/-! ## Zones of a database -/

theorem Zone.regular_of_named [ZoneDatabase] {name : Text} {zone : Zone} (h : Zone.named? name = some zone) :
    zone.IsRegular := by
  rw [Zone.named?, Option.map_eq_some_iff] at h
  obtain ⟨named, hfind, rfl⟩ := h
  exact ZoneDatabase.regular named (List.mem_of_find?_eq_some hfind)

theorem Schedule.instantOf_eq_none [ZoneDatabase] {schedule : Schedule} {zone : Zone} (hzone : schedule.zone? = some zone)
    {shown : LocalTime} (inner : shown.IsInner) : schedule.instantOf shown = .ok none ↔ zone.Misses shown := by
  rw [instantOf, hzone]
  exact Zone.instantFor_eq_none (Zone.regular_of_named hzone).steady inner

end ImportDispatch

import ImportDispatch.Proofs.Calendar.Dates
import ImportDispatch.Proofs.Schedule.Placement
import ImportDispatch.Zone.Selection
import Mathlib.Order.Bounds.Basic
/-!
# Readings in a gap

Where a change forward jumps over a reading, the rule is that it counts as the reading that much later: the length of
the gap is added to it, so that the way to it is as long as it would have been (`Zone.PlacedAt`).  What is done adds an
hour whatever the length is.  So the rule is kept where no gap is met, and in gaps of an hour, and nowhere else
(`Zone.placed_iff`): in Lord Howe, where the clocks go forward by half an hour, a reading in the gap comes out half an
hour late, and on the day that Apia left out it comes to nothing.
-/
namespace ImportDispatch

namespace LocalTime

theorem hourLater?_eq_some {t later : LocalTime} :
    t.hourLater? = some later ↔ later.seconds = t.seconds + 3600 ∧ later.nano = t.nano % 1000000000 := by
  have hnano := t.nano_lt
  rw [hourLater?, ofSeconds?_eq_some]
  refine and_congr_right fun _ => ?_
  split <;> omega

end LocalTime

/-! ## The earliest instant -/

theorem instantsFrom_pairwise {shown : Int} : ∀ {since : Option Int} {offset : Int} {changes : List (Int × Int)},
    steadyFrom since offset changes → (instantsFrom since offset changes shown).Pairwise (· < ·)
  | since, offset, [], _ => by
    rw [instantsFrom_nil]
    split
    · exact List.pairwise_singleton _ _
    · exact List.Pairwise.nil
  | since, offset, (next, after) :: rest, h => by
    obtain ⟨-, -, steady⟩ := steadyFrom_cons.1 h
    rw [instantsFrom_cons]
    split
    · rename_i here
      refine List.pairwise_cons.2 ⟨fun instant hmem => ?_, instantsFrom_pairwise steady⟩
      have hlater := ((mem_instantsFrom steady).1 hmem).1
      rw [hasBegun_some] at hlater
      omega
    · exact instantsFrom_pairwise steady

namespace Zone

variable {zone : Zone} {shown utc : LocalTime}

/-- The instant is the first at which the clocks show the second. -/
def FirstShows (zone : Zone) (instant shown : Int) : Prop := IsLeast {i | zone.clock i = shown} instant

theorem head_instants (steady : zone.isSteady) {instant shown : Int} :
    (zone.instants shown).head? = some instant ↔ zone.FirstShows instant shown := by
  have hordered : (zone.instants shown).Pairwise (· < ·) := instantsFrom_pairwise steady
  have hmem : ∀ i, i ∈ zone.instants shown ↔ zone.clock i = shown := fun i => mem_instants steady
  unfold FirstShows IsLeast lowerBounds
  cases hinstants : zone.instants shown with
  | nil =>
    rw [hinstants] at hmem
    simp [← hmem]
  | cons first others =>
    rw [hinstants] at hmem hordered
    rw [List.head?_cons, Option.some.injEq]
    constructor
    · rintro rfl
      refine ⟨(hmem first).1 List.mem_cons_self, fun i hi => ?_⟩
      rcases List.mem_cons.1 ((hmem i).2 hi) with rfl | hothers
      · exact le_refl i
      · exact le_of_lt (List.rel_of_pairwise_cons hordered hothers)
    · rintro ⟨hshows, hleast⟩
      have hle := hleast ((hmem first).1 List.mem_cons_self)
      rcases List.mem_cons.1 ((hmem instant).2 hshows) with rfl | hothers
      · rfl
      · have := List.rel_of_pairwise_cons hordered hothers
        omega

theorem earliest?_eq_some (steady : zone.isSteady) :
    zone.earliest? shown = some utc ↔ zone.FirstShows utc.seconds shown.seconds ∧ utc.nano = shown.nano := by
  have hbind : zone.earliest? shown =
      (zone.instants shown.seconds).head?.bind fun instant => LocalTime.ofSeconds? instant shown.nano := rfl
  rw [hbind, Option.bind_eq_some_iff]
  simp only [LocalTime.ofSeconds?_eq_some, head_instants steady]
  constructor
  · rintro ⟨instant, hfirst, rfl, hnano⟩
    exact ⟨hfirst, hnano⟩
  · rintro ⟨hfirst, hnano⟩
    exact ⟨utc.seconds, hfirst, rfl, hnano⟩

end Zone

/-! ## Behind a gap -/

theorem skip_forward {skip : Skip} : ∀ {offset : Int} {changes : List (Int × Int)}, skip ∈ skipsFrom offset changes →
    skip.first < skip.behind
  | offset, (next, after) :: rest, h => by
    rcases mem_skipsFrom_cons.1 h with ⟨hforward, rfl⟩ | h
    · dsimp only
      omega
    · exact skip_forward h

/-- In the first two days of a stretch a reading of it is first shown there. -/
theorem head_of_stretch {start offset shown : Int} : ∀ {changes : List (Int × Int)},
    steadyFrom (some start) offset changes → start ≤ shown - offset → shown - offset < start + 172800 →
      (instantsFrom (some start) offset changes shown).head? = some (shown - offset)
  | [], _, hbegun, _ => by
    rw [instantsFrom_nil, if_pos ((hasBegun_some _ _).2 hbegun), List.head?_cons]
  | (next, after) :: rest, h, hbegun, hsoon => by
    obtain ⟨-, hnext, -⟩ := steadyFrom_cons.1 h
    rw [hasBegun_some] at hnext
    rw [instantsFrom_cons, if_pos ⟨(hasBegun_some _ _).2 hbegun, by omega⟩, List.head?_cons]

/-- Readings up to two days behind a gap are first shown by the offset that came with it: it is the one before and the
length of the gap. -/
theorem head_behind_skip {skip : Skip} : ∀ {since : Option Int} {offset : Int} {changes : List (Int × Int)},
    steadyFrom since offset changes → skip ∈ skipsFrom offset changes →
      ∃ before, -86400 < before ∧ before < 86400 ∧ before + (skip.behind - skip.first) < 86400 ∧
        ∀ shown, skip.behind ≤ shown → shown < skip.behind + 172800 →
          (instantsFrom since offset changes shown).head? = some (shown - (before + (skip.behind - skip.first)))
  | since, offset, (next, after) :: rest, h, hskip => by
    obtain ⟨bounds, -, steady⟩ := steadyFrom_cons.1 h
    have bounds' := offset_of_steady steady
    rcases mem_skipsFrom_cons.1 hskip with ⟨hforward, rfl⟩ | hskip
    · refine ⟨offset, bounds.1, bounds.2, ?_, fun shown hbehind hsoon => ?_⟩
      · dsimp only
        omega
      · dsimp only at hbehind hsoon
        have hafter : offset + (next + after - (next + offset)) = after := by omega
        rw [instantsFrom_cons, if_neg (by omega), hafter]
        exact head_of_stretch steady (by omega) (by omega)
    · obtain ⟨before, hlow, hhigh, hlength, hhead⟩ := head_behind_skip steady hskip
      refine ⟨before, hlow, hhigh, hlength, fun shown hbehind hsoon => ?_⟩
      have hlate := late_skip steady hskip
      have hlong := skip_forward hskip
      rw [instantsFrom_cons, if_neg (by omega)]
      exact hhead shown hbehind hsoon

/-! ## The rule -/

/-- A change forward jumps over the reading. -/
def Skip.Holds (skip : Skip) (shown : LocalTime) : Prop := skip.first ≤ shown.seconds ∧ shown.seconds < skip.behind

/-- How far the clocks go forward. -/
def Skip.length (skip : Skip) : Int := skip.behind - skip.first

namespace Zone

variable {zone : Zone} {shown utc : LocalTime}

/-- Where the rule places a reading: at the first instant that shows it; and if there is none, for the gap that it lies
in, at the first instant that shows it later by the length of the gap.  A leap second is left behind then, as it is
counted to the second before. -/
inductive PlacedAt (zone : Zone) (shown utc : LocalTime) : Prop
  | shown (first : zone.FirstShows utc.seconds shown.seconds) (fraction : utc.nano = shown.nano)
  | skipped {skip : Skip} (mem : skip ∈ zone.skips) (holds : skip.Holds shown)
    (unshown : ∀ instant, zone.clock instant ≠ shown.seconds)
    (first : zone.FirstShows utc.seconds (shown.seconds + skip.length))
    (fraction : utc.nano = shown.nano % 1000000000)

theorem unshown_iff (steady : zone.isSteady) :
    (∀ instant, zone.clock instant ≠ shown.seconds) ↔ ∃ skip ∈ zone.skips, skip.Holds shown := by
  simp only [Skip.Holds, ← instants_eq_nil steady, List.eq_nil_iff_forall_not_mem, mem_instants steady]

theorem shown_or_skipped (steady : zone.isSteady) (shown : LocalTime) :
    (∃ instant, zone.FirstShows instant shown.seconds) ∨ ∃ skip ∈ zone.skips, skip.Holds shown := by
  cases hinstants : zone.instants shown.seconds with
  | nil => exact .inr ((instants_eq_nil steady).1 hinstants)
  | cons first others => exact .inl ⟨first, (head_instants steady).1 (by rw [hinstants, List.head?_cons])⟩

/-- A reading lies in one gap at most. -/
theorem skip_eq_of_holds (steady : zone.isSteady) {first second : Skip} (hfirst : first ∈ zone.skips)
    (hsecond : second ∈ zone.skips) (h : first.Holds shown) (h' : second.Holds shown) : first = second := by
  obtain ⟨hfrom, hto⟩ := h
  obtain ⟨hfrom', hto'⟩ := h'
  rcases skips_apart steady hfirst hsecond with rfl | hapart
  · rfl
  · omega

/-- The rule places every reading away from the ends of the calendar. -/
theorem exists_placed (steady : zone.isSteady) (inner : shown.IsInner) : ∃ utc, zone.PlacedAt shown utc := by
  have hnano := shown.nano_lt
  rcases shown_or_skipped steady shown with ⟨instant, hfirst⟩ | ⟨skip, hskip, hholds⟩
  · have hmem := List.mem_of_mem_head? ((head_instants steady).2 hfirst)
    have hnear := instantsFrom_near steady hmem
    have hnear : shown.seconds - 86400 < instant ∧ instant < shown.seconds + 90000 := by omega
    obtain ⟨utc, hutc, hseconds⟩ := LocalTime.ofSeconds?_inner inner hnear hnano
    rw [← hseconds] at hfirst
    exact ⟨utc, .shown hfirst (LocalTime.ofSeconds?_eq_some.1 hutc).2⟩
  · obtain ⟨before, hlow, hhigh, hlength, hhead⟩ := head_behind_skip steady hskip
    have ⟨hfrom, hto⟩ := hholds
    -- the instant at which the offset before the change would have shown the reading
    have hfirst : zone.FirstShows (shown.seconds - before) (shown.seconds + skip.length) := by
      have hplace : shown.seconds + skip.length - (before + (skip.behind - skip.first)) = shown.seconds - before := by
        unfold Skip.length
        omega
      rw [← hplace, ← head_instants steady]
      exact hhead _ (by unfold Skip.length; omega) (by unfold Skip.length; omega)
    have hnear : shown.seconds - 86400 < shown.seconds - before ∧ shown.seconds - before < shown.seconds + 90000 := by
      omega
    have hfraction : shown.nano % 1000000000 < 2000000000 := by omega
    obtain ⟨utc, hutc, hseconds⟩ := LocalTime.ofSeconds?_inner inner hnear hfraction
    rw [← hseconds] at hfirst
    have hunshown := (unshown_iff steady).2 ⟨skip, hskip, hholds⟩
    exact ⟨utc, .skipped hskip hholds hunshown hfirst (LocalTime.ofSeconds?_eq_some.1 hutc).2⟩

theorem placed_unique (steady : zone.isSteady) {utc utc' : LocalTime} (h : zone.PlacedAt shown utc)
    (h' : zone.PlacedAt shown utc') : utc = utc' := by
  have hsame : utc.seconds = utc'.seconds ∧ utc.nano = utc'.nano := by
    cases h with
    | shown first fraction =>
      cases h' with
      | shown first' fraction' => exact ⟨first.unique first', fraction.trans fraction'.symm⟩
      | skipped _ _ unshown => exact absurd first.1 (unshown _)
    | skipped mem holds unshown first fraction =>
      cases h' with
      | shown first' => exact absurd first'.1 (unshown _)
      | skipped mem' holds' _ first' fraction' =>
        rw [skip_eq_of_holds steady mem mem' holds holds'] at first
        exact ⟨first.unique first', fraction.trans fraction'.symm⟩
  exact Option.some.inj
    ((LocalTime.ofSeconds?_eq_some.2 hsame).symm.trans (LocalTime.ofSeconds?_eq_some.2 ⟨rfl, rfl⟩))

/-! ## What is done -/

/-- A reading goes to the first instant that shows it, and a reading in a gap to the first one that shows it an hour
later. -/
theorem instantFor_eq_some (steady : zone.isSteady) (inner : shown.IsInner) :
    zone.instantFor shown = .ok (some utc) ↔ (zone.FirstShows utc.seconds shown.seconds ∧ utc.nano = shown.nano) ∨
      (∃ skip ∈ zone.skips, skip.Holds shown) ∧ zone.FirstShows utc.seconds (shown.seconds + 3600) ∧
        utc.nano = shown.nano % 1000000000 := by
  obtain ⟨later, hlater, -⟩ := LocalTime.hourLater?_inner inner
  obtain ⟨hseconds, hfraction⟩ := LocalTime.hourLater?_eq_some.1 hlater
  have anHourLater : zone.earliest? later = some utc ↔
      zone.FirstShows utc.seconds (shown.seconds + 3600) ∧ utc.nano = shown.nano % 1000000000 := by
    rw [earliest?_eq_some steady, hseconds, hfraction]
  rw [instantFor, hlater, ← earliest?_eq_some steady, ← anHourLater]
  cases hnow : zone.earliest? shown with
  | some first =>
    have hshown := ((earliest?_eq_some steady).1 hnow).1.1
    have hnoskip : ¬∃ skip ∈ zone.skips, skip.Holds shown := fun hskip => (unshown_iff steady).2 hskip _ hshown
    simp [hnoskip]
  | none =>
    have hskip : ∃ skip ∈ zone.skips, skip.Holds shown :=
      (instants_eq_nil steady).1 ((earliest?_eq_none steady inner (.inl rfl)).1 hnow)
    simp [hskip]

theorem keeps_rule_iff (steady : zone.isSteady) (inner : shown.IsInner) :
    (∃ utc, zone.instantFor shown = .ok (some utc) ∧ zone.PlacedAt shown utc) ↔
      ∀ skip ∈ zone.skips, skip.Holds shown → skip.length = 3600 := by
  constructor
  · rintro ⟨utc, hdone, hrule⟩ skip hskip hholds
    have hunshown := (unshown_iff steady).2 ⟨skip, hskip, hholds⟩
    cases hrule with
    | shown first => exact absurd first.1 (hunshown _)
    | skipped mem holds _ first =>
      rcases (instantFor_eq_some steady inner).1 hdone with ⟨first', -⟩ | ⟨-, first', -⟩
      · exact absurd first'.1 (hunshown _)
      · -- the clocks show one reading at the instant
        have hsame : shown.seconds + Skip.length _ = shown.seconds + 3600 := first.1.symm.trans first'.1
        rw [skip_eq_of_holds steady hskip mem hholds holds]
        omega
  · intro hhour
    obtain ⟨utc, hrule⟩ := exists_placed steady inner
    refine ⟨utc, (instantFor_eq_some steady inner).2 ?_, hrule⟩
    cases hrule with
    | shown first fraction => exact .inl ⟨first, fraction⟩
    | skipped mem holds unshown first fraction =>
      rw [hhour _ mem holds] at first
      exact .inr ⟨⟨_, mem, holds⟩, first, fraction⟩

/-- **Readings are placed by the rule exactly where they lie in no gap, or in one of an hour.**  The rule gives every
reading one place.  What has no place at all lies in a gap of more than an hour, more than an hour before its end. -/
theorem placed_iff (steady : zone.isSteady) (inner : shown.IsInner) :
    (∃! utc, zone.PlacedAt shown utc) ∧
      ((∃ utc, zone.instantFor shown = .ok (some utc) ∧ zone.PlacedAt shown utc) ↔
        ∀ skip ∈ zone.skips, skip.Holds shown → skip.length = 3600) ∧
      (zone.instantFor shown = .ok none ↔ zone.Misses shown) := by
  obtain ⟨utc, hrule⟩ := exists_placed steady inner
  exact ⟨⟨utc, hrule, fun utc' hrule' => placed_unique steady hrule' hrule⟩, keeps_rule_iff steady inner,
    instantFor_eq_none steady inner⟩

end Zone

/-! ## A gap of half an hour -/

/-- A quarter past two on 6 October 2024.  In Lord Howe the clocks went from two to half past. -/
def gapReading : LocalTime := ⟨20002, 8100, 0, by decide, by decide, by decide, no_nanos_lt⟩

theorem lordHowe_steady : ZoneTable.lordHowe.isSteady :=
  (regular_of_selected ("Australia/Lord_Howe", ZoneTable.lordHowe) (by simp [zonesByName])).steady

theorem gapReading_skipped :
    ∃ skip ∈ ZoneTable.lordHowe.skips, skip.Holds gapReading ∧ skip.length = 1800 :=
  ⟨⟨1728180000, 1728181800⟩, by decide +kernel, ⟨by decide, by decide⟩, rfl⟩

theorem Zone.placed_iff_gapReading :
    ZoneTable.lordHowe.isSteady ∧ gapReading.IsInner ∧ (∃! utc, ZoneTable.lordHowe.PlacedAt gapReading utc) ∧
      (¬∃ utc, ZoneTable.lordHowe.instantFor gapReading = .ok (some utc) ∧ ZoneTable.lordHowe.PlacedAt gapReading utc) ∧
      ZoneTable.lordHowe.instantFor gapReading ≠ .ok none := by
  have inner : gapReading.IsInner := by decide
  obtain ⟨hrule, hdone, -⟩ := Zone.placed_iff lordHowe_steady inner
  refine ⟨lordHowe_steady, inner, hrule, fun hplaced => ?_, by decide +kernel⟩
  obtain ⟨skip, hskip, hholds, hlength⟩ := gapReading_skipped
  have := hdone.1 hplaced skip hskip hholds
  omega

/-- A name does not keep a zone from a gap that is not an hour. -/
theorem Zone.not_placed_of_named :
    ¬∀ (name : Text) (zone : Zone), Zone.named? name = some zone → ∀ shown : LocalTime, shown.IsInner →
      ∃ utc, zone.instantFor shown = .ok (some utc) ∧ zone.PlacedAt shown utc := by
  intro h
  have hzone : Zone.named? "Australia/Lord_Howe".toList = some ZoneTable.lordHowe := by decide +kernel
  have inner : gapReading.IsInner := by decide
  obtain ⟨skip, hskip, hholds, hlength⟩ := gapReading_skipped
  have := (keeps_rule_iff lordHowe_steady inner).1 (h _ _ hzone gapReading inner) skip hskip hholds
  omega

end ImportDispatch

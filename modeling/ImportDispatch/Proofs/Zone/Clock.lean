import ImportDispatch.Zone.Regular
/-!
# What the clocks of a zone show

`Zone.instants` turns the clocks of a zone round: it looks for the instants that show a reading.  This module has the
clocks themselves (`Zone.clock`), and says when the search finds something.  In a steady zone, whose changes lie days
apart, it finds exactly the instants that show the reading (`Zone.mem_instants`), and it finds none exactly for the
readings that a change forward jumps over (`Zone.instants_eq_nil`).
-/
namespace ImportDispatch

/-! ## Clocks -/

def offsetFrom (offset : Int) : List (Int × Int) → Int → Int
  | [], _ => offset
  | (next, after) :: rest, instant => if instant < next then offset else offsetFrom after rest instant

/-- What the clocks of the zone show at an instant, in seconds. -/
def Zone.clock (zone : Zone) (instant : Int) : Int := instant + offsetFrom zone.offset zone.changes instant

@[simp] theorem hasBegun_none (instant : Int) : hasBegun none instant := rfl

@[simp] theorem hasBegun_some (start instant : Int) : hasBegun (some start) instant ↔ start ≤ instant := by
  simp [hasBegun]

theorem offset_of_steady {since : Option Int} {offset : Int} {changes : List (Int × Int)}
    (h : steadyFrom since offset changes) : -86400 < offset ∧ offset < 86400 := by
  cases changes <;> simp_all [steadyFrom]

theorem steadyFrom_cons {since : Option Int} {offset next after : Int} {rest : List (Int × Int)} :
    steadyFrom since offset ((next, after) :: rest) ↔
      (-86400 < offset ∧ offset < 86400) ∧ hasBegun since (next - 259200) ∧ steadyFrom (some next) after rest := by
  simp [steadyFrom, and_assoc]

theorem instantsFrom_nil (since : Option Int) (offset shown : Int) :
    instantsFrom since offset [] shown = if hasBegun since (shown - offset) then [shown - offset] else [] := by
  cases since <;> simp [instantsFrom, hasBegun]

theorem instantsFrom_cons (since : Option Int) (offset next after shown : Int) (rest : List (Int × Int)) :
    instantsFrom since offset ((next, after) :: rest) shown =
      if hasBegun since (shown - offset) ∧ shown - offset < next then
        (shown - offset) :: instantsFrom (some next) after rest shown
      else instantsFrom (some next) after rest shown := by
  cases since <;> simp [instantsFrom, hasBegun]

theorem mem_instantsFrom {instant shown : Int} : ∀ {since : Option Int} {offset : Int} {changes : List (Int × Int)},
    steadyFrom since offset changes →
      (instant ∈ instantsFrom since offset changes shown ↔
        hasBegun since instant ∧ instant + offsetFrom offset changes instant = shown)
  | since, offset, [], _ => by
    rw [instantsFrom_nil, offsetFrom]
    split
    · rename_i begun
      rw [List.mem_singleton]
      constructor
      · rintro rfl
        exact ⟨begun, by omega⟩
      · omega
    · rename_i waiting
      refine ⟨by simp, fun ⟨begun, shows⟩ => absurd begun ?_⟩
      rwa [← shows, Int.add_sub_cancel] at waiting
  | since, offset, (next, after) :: rest, h => by
    obtain ⟨-, start, steady⟩ := steadyFrom_cons.1 h
    have others : instant ∈ instantsFrom (some next) after rest shown ↔
        hasBegun (some next) instant ∧ instant + offsetFrom after rest instant = shown := mem_instantsFrom steady
    have begun : next ≤ instant → hasBegun since instant := by
      cases since with
      | none => simp
      | some start =>
        rw [hasBegun_some] at *
        omega
    rw [instantsFrom_cons, offsetFrom]
    by_cases hlt : instant < next
    · -- the instant lies in this stretch, none of the later ones has it
      have : instant ∉ instantsFrom (some next) after rest shown := by
        rw [others, hasBegun_some]
        omega
      rw [if_pos hlt]
      split
      · rename_i here
        rw [List.mem_cons, or_iff_left this]
        constructor
        · rintro rfl
          exact ⟨here.1, by omega⟩
        · omega
      · rename_i elsewhere
        refine ⟨fun hmem => absurd hmem this, fun ⟨hbegun, shows⟩ => absurd ?_ elsewhere⟩
        rw [← shows, Int.add_sub_cancel]
        exact ⟨hbegun, hlt⟩
    · have later : next ≤ instant := by omega
      rw [if_neg hlt]
      have : instant ∈ instantsFrom (some next) after rest shown ↔
          hasBegun since instant ∧ instant + offsetFrom after rest instant = shown := by
        rw [others, hasBegun_some, iff_true_intro later, iff_true_intro (begun later)]
      rw [← this]
      split
      · rw [List.mem_cons, or_iff_right (by omega)]
      · rfl

/-- **The search finds the instants that show a reading.** -/
theorem Zone.mem_instants {zone : Zone} (steady : zone.isSteady) {instant shown : Int} :
    instant ∈ zone.instants shown ↔ zone.clock instant = shown := by
  rw [Zone.instants, mem_instantsFrom steady]
  simp [Zone.clock]

theorem instantsFrom_near {instant shown : Int} : ∀ {since : Option Int} {offset : Int} {changes : List (Int × Int)},
    steadyFrom since offset changes → instant ∈ instantsFrom since offset changes shown →
      shown - 86400 < instant ∧ instant < shown + 86400
  | since, offset, [], h, hmem => by
    have := offset_of_steady h
    rw [instantsFrom_nil] at hmem
    split at hmem
    · rw [List.mem_singleton] at hmem
      omega
    · simp at hmem
  | since, offset, (next, after) :: rest, h, hmem => by
    obtain ⟨bounds, -, steady⟩ := steadyFrom_cons.1 h
    rw [instantsFrom_cons] at hmem
    split at hmem
    · rcases List.mem_cons.1 hmem with rfl | hmem
      · omega
      · exact instantsFrom_near steady hmem
    · exact instantsFrom_near steady hmem

/-! ## Skipped readings -/

/-- A run of readings that a change forward jumps over: the first of them, and the first one behind them. -/
structure Skip where
  first : Int
  behind : Int
deriving DecidableEq, Repr

def skipsFrom (offset : Int) : List (Int × Int) → List Skip
  | [] => []
  | (next, after) :: rest =>
    if offset < after then ⟨next + offset, next + after⟩ :: skipsFrom after rest else skipsFrom after rest

def Zone.skips (zone : Zone) : List Skip := skipsFrom zone.offset zone.changes

theorem mem_skipsFrom_cons {skip : Skip} {offset next after : Int} {rest : List (Int × Int)} :
    skip ∈ skipsFrom offset ((next, after) :: rest) ↔
      (offset < after ∧ skip = ⟨next + offset, next + after⟩) ∨ skip ∈ skipsFrom after rest := by
  rw [skipsFrom]
  split <;> rename_i forward
  · rw [List.mem_cons, and_iff_right forward]
  · rw [or_iff_right fun h => forward h.1]

theorem late_skip {skip : Skip} {start : Int} : ∀ {offset : Int} {changes : List (Int × Int)},
    steadyFrom (some start) offset changes → skip ∈ skipsFrom offset changes → start + 172800 < skip.first
  | offset, (next, after) :: rest, h, hskip => by
    obtain ⟨bounds, hstart, steady⟩ := steadyFrom_cons.1 h
    rw [hasBegun_some] at hstart
    rcases mem_skipsFrom_cons.1 hskip with ⟨-, rfl⟩ | hskip
    · show start + 172800 < next + offset
      omega
    · have := late_skip steady hskip
      omega

/-- **No two skips lie within a day of each other.** -/
theorem skips_apart {first second : Skip} : ∀ {since : Option Int} {offset : Int} {changes : List (Int × Int)},
    steadyFrom since offset changes → first ∈ skipsFrom offset changes → second ∈ skipsFrom offset changes →
      first = second ∨ first.behind + 86400 < second.first ∨ second.behind + 86400 < first.first
  | since, offset, (next, after) :: rest, h, hfirst, hsecond => by
    obtain ⟨-, -, steady⟩ := steadyFrom_cons.1 h
    have bounds := offset_of_steady steady
    rcases mem_skipsFrom_cons.1 hfirst with ⟨-, rfl⟩ | hfirst
    · rcases mem_skipsFrom_cons.1 hsecond with ⟨-, rfl⟩ | hsecond
      · exact .inl rfl
      · have := late_skip steady hsecond
        exact .inr (.inl (by dsimp only; omega))
    · rcases mem_skipsFrom_cons.1 hsecond with ⟨-, rfl⟩ | hsecond
      · have := late_skip steady hfirst
        exact .inr (.inr (by dsimp only; omega))
      · exact skips_apart steady hfirst hsecond

/-- No stretch shows a reading from before its start. -/
theorem instantsFrom_early {start shown : Int} : ∀ {offset : Int} {changes : List (Int × Int)},
    steadyFrom (some start) offset changes → shown < start + offset →
      instantsFrom (some start) offset changes shown = []
  | offset, [], _, early => by
    rw [instantsFrom_nil, if_neg]
    rw [hasBegun_some]
    omega
  | offset, (next, after) :: rest, h, early => by
    obtain ⟨bounds, hstart, steady⟩ := steadyFrom_cons.1 h
    rw [hasBegun_some] at hstart
    have := offset_of_steady steady
    rw [instantsFrom_cons, if_neg, instantsFrom_early steady (by omega)]
    rw [hasBegun_some]
    omega

theorem instantsFrom_eq_nil {shown : Int} : ∀ {since : Option Int} {offset : Int} {changes : List (Int × Int)},
    steadyFrom since offset changes → hasBegun since (shown - offset) →
      (instantsFrom since offset changes shown = [] ↔
        ∃ skip ∈ skipsFrom offset changes, skip.first ≤ shown ∧ shown < skip.behind)
  | since, offset, [], _, begun => by simp [instantsFrom_nil, begun, skipsFrom]
  | since, offset, (next, after) :: rest, h, begun => by
    obtain ⟨bounds, -, steady⟩ := steadyFrom_cons.1 h
    have bounds' := offset_of_steady steady
    rw [instantsFrom_cons]
    by_cases here : shown - offset < next
    · -- shown in this stretch, so before every skip
      rw [if_pos ⟨begun, here⟩]
      refine ⟨by simp, ?_⟩
      rintro ⟨skip, hskip, hfirst, hbehind⟩
      rcases mem_skipsFrom_cons.1 hskip with ⟨-, rfl⟩ | hskip
      · simp only at hfirst
        omega
      · have := late_skip steady hskip
        omega
    · rw [if_neg fun h => here h.2]
      by_cases skipped : shown < next + after
      · -- jumped over by the change itself
        refine ⟨fun _ => ⟨⟨next + offset, next + after⟩, mem_skipsFrom_cons.2 (.inl ⟨by omega, rfl⟩), ?_, skipped⟩,
          fun _ => instantsFrom_early steady skipped⟩
        show next + offset ≤ shown
        omega
      · rw [instantsFrom_eq_nil steady ((hasBegun_some _ _).2 (by omega))]
        constructor
        · rintro ⟨skip, hskip, hin⟩
          exact ⟨skip, mem_skipsFrom_cons.2 (.inr hskip), hin⟩
        · rintro ⟨skip, hskip, hin⟩
          rcases mem_skipsFrom_cons.1 hskip with ⟨-, rfl⟩ | hskip
          · exact absurd hin.2 skipped
          · exact ⟨skip, hskip, hin⟩

/-- **A reading is shown at no instant exactly if a change forward jumps over it.** -/
theorem Zone.instants_eq_nil {zone : Zone} (steady : zone.isSteady) {shown : Int} :
    zone.instants shown = [] ↔ ∃ skip ∈ zone.skips, skip.first ≤ shown ∧ shown < skip.behind :=
  instantsFrom_eq_nil steady rfl

end ImportDispatch

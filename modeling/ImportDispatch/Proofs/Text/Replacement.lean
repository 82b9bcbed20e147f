import ImportDispatch.Text
import Mathlib.Data.List.Infix
/-!
# Search and replacement

A search finds the parts of a text that stand in it as one piece (`occursIn_iff`).  Of replacement only one use is
made: one separator becomes another, where both begin with the same character and go on with others, each with its own.
Then no old separator is left (`not_infix_replace`), and what neither begins nor ends inside of a separator stands in
the result exactly if it stood in the text before (`infix_replace_iff`).
-/
namespace ImportDispatch
namespace Text

theorem occursIn_iff {part : Text} : ∀ {s : Text}, occursIn part s = true ↔ part <:+: s
  | [] => by simp [occursIn]
  | c :: s => by
    rw [occursIn, Bool.or_eq_true, List.isPrefixOf_iff_prefix, occursIn_iff, List.infix_cons_iff]

/-! ## One replacement after the other -/

theorem replace_append {old : Text} (hold : old ≠ []) (new s : Text) :
    replace old new (old ++ s) = new ++ replace old new s := by
  obtain ⟨c, rest, rfl⟩ := List.exists_cons_of_ne_nil hold
  have hprefix : (c :: rest).isPrefixOf (c :: (rest ++ s)) = true :=
    List.isPrefixOf_iff_prefix.2 (List.prefix_append (c :: rest) s)
  rw [List.cons_append, replace, hprefix]
  simp

theorem replace_cons {old : Text} {c : Char} {s : Text} (h : ¬ old <+: c :: s) (new : Text) :
    replace old new (c :: s) = c :: replace old new s := by
  rw [replace, if_neg (by simp [h])]

/-- A replacement goes on behind a text that no part to be replaced begins in. -/
theorem replace_append_left {lead a : Char} (as new : Text) {s : Text} : ∀ {front : Text}, a ∉ front →
    (front.getLast? = some lead → s.head? ≠ some a) →
    replace (lead :: a :: as) new (front ++ s) = front ++ replace (lead :: a :: as) new s
  | [], _, _ => rfl
  | [c], _, hedge => by
    rw [List.singleton_append, List.singleton_append, replace_cons]
    rintro hfits
    obtain ⟨rfl, more, rfl⟩ := List.cons_prefix_cons.1 hfits
    exact hedge rfl rfl
  | c :: d :: front, hfront, hedge => by
    rw [List.mem_cons, not_or] at hfront
    have hkeep : ¬lead :: a :: as <+: c :: (d :: front ++ s) := fun hfits => by
      rw [List.cons_append, List.cons_prefix_cons, List.cons_prefix_cons] at hfits
      exact hfront.2 (hfits.2.1 ▸ List.mem_cons_self)
    rw [List.cons_append, replace_cons hkeep, replace_append_left as new hfront.2 (by simpa using hedge)]
    rfl

/-- Induction along a replacement: an old piece comes next, or a character that stays. -/
theorem replace_induction {old new : Text} (hold : old ≠ []) {motive : Text → Text → Prop} (nil : motive [] [])
    (piece : ∀ s, motive s (replace old new s) → motive (old ++ s) (new ++ replace old new s))
    (keep : ∀ c s, ¬ old <+: c :: s → motive s (replace old new s) → motive (c :: s) (c :: replace old new s)) :
    ∀ s, motive s (replace old new s)
  | [] => by rw [replace]; exact nil
  | c :: s => by
    by_cases h : old <+: c :: s
    · obtain ⟨rest, hrest⟩ := h
      have hshorter : rest.length ≤ s.length := by
        have hlength := congrArg List.length hrest
        have hpositive := List.length_pos_iff.2 hold
        rw [List.length_append, List.length_cons] at hlength
        omega
      rw [← hrest, replace_append hold]
      exact piece rest (replace_induction hold nil piece keep rest)
    · rw [replace_cons h]
      exact keep c s h (replace_induction hold nil piece keep s)
termination_by s => s.length
decreasing_by
  all_goals simp only [List.length_cons]; omega

theorem replace_of_not_infix {old new : Text} (hold : old ≠ []) {s : Text} (h : ¬ old <:+: s) :
    replace old new s = s := by
  refine replace_induction hold (motive := fun s t => ¬ old <:+: s → t = s) (fun _ => rfl) ?_ ?_ s h
  · intro s _ h
    exact absurd (List.prefix_append old s).isInfix h
  · intro c s _ ih h
    rw [ih fun hs => h (List.infix_cons hs)]

/-! ## One separator for another -/

/-- Where the text holds `lead`, neither `a` nor `b` stands behind it, and it is not the last character. -/
def Inert (lead a b : Char) : Text → Prop
  | [] => True
  | c :: rest => (c = lead → rest.head?.any (fun d => d != a && d != b) = true) ∧ Inert lead a b rest

instance decidableInert (lead a b : Char) : ∀ w, Decidable (Inert lead a b w)
  | [] => .isTrue trivial
  | c :: rest =>
    have := decidableInert lead a b rest
    inferInstanceAs (Decidable ((c = lead → rest.head?.any (fun d => d != a && d != b) = true) ∧ Inert lead a b rest))

theorem inert_of_not_mem {lead : Char} (a b : Char) : ∀ {w : Text}, lead ∉ w → Inert lead a b w
  | [], _ => trivial
  | c :: w, h => by
    rw [List.mem_cons, not_or] at h
    exact ⟨fun hc => absurd hc.symm h.1, inert_of_not_mem a b h.2⟩

/-- What is inert after a change of its characters that leaves `lead`, `a` and `b` alone was inert before. -/
theorem inert_of_map {lead a b : Char} {f : Char → Char} (hlead : f lead = lead) (ha : f a = a) (hb : f b = b) :
    ∀ {w : Text}, Inert lead a b (w.map f) → Inert lead a b w
  | [], _ => trivial
  | c :: w, ⟨hfirst, hrest⟩ => by
    refine ⟨fun hc => ?_, inert_of_map hlead ha hb hrest⟩
    have hnext := hfirst (by rw [hc, hlead])
    cases w with
    | nil => simp at hnext
    | cons d w =>
      simp only [List.map_cons, List.head?_cons, Option.any_some, Bool.and_eq_true, bne_iff_ne] at hnext ⊢
      exact ⟨fun h => hnext.1 (by rw [h, ha]), fun h => hnext.2 (by rw [h, hb])⟩

/-- A text does not begin in front of it what begins with none of its characters. -/
theorem infix_append_iff {c : Char} {w : Text} : ∀ {front : Text}, c ∉ front → ∀ s : Text,
    c :: w <:+: front ++ s ↔ c :: w <:+: s
  | [], _, _ => Iff.rfl
  | d :: front, h, s => by
    rw [List.mem_cons, not_or] at h
    rw [List.cons_append, List.infix_cons_iff, List.cons_prefix_cons, infix_append_iff h.2]
    simp [h.1]

section Separators

variable {lead a b : Char} {as bs : Text}

theorem not_prefix_of_inert {w : Text} (hw : Inert lead a b w) (hne : w ≠ []) (s : Text) :
    ¬ w <+: lead :: a :: s ∧ ¬ w <+: lead :: b :: s := by
  obtain ⟨c, rest, rfl⟩ := List.exists_cons_of_ne_nil hne
  rw [List.cons_prefix_cons, List.cons_prefix_cons]
  constructor <;>
  · rintro ⟨hc, hrest⟩
    have hnext := hw.1 hc
    cases rest with
    | nil => simp at hnext
    | cons d rest =>
      rw [List.cons_prefix_cons] at hrest
      simp [hrest.1] at hnext

theorem prefix_replace_iff (s : Text) : ∀ {w : Text}, Inert lead a b w →
    (w <+: replace (lead :: a :: as) (lead :: b :: bs) s ↔ w <+: s) := by
  refine replace_induction (List.cons_ne_nil _ _)
    (motive := fun s t => ∀ {w : Text}, Inert lead a b w → (w <+: t ↔ w <+: s)) (fun _ => Iff.rfl) ?_ ?_ s
  · intro s _ w hw
    by_cases hne : w = []
    · simp [hne]
    · simp only [List.cons_append]
      exact iff_of_false (not_prefix_of_inert hw hne _).2 (not_prefix_of_inert hw hne _).1
  · intro c s _ ih w hw
    cases w with
    | nil => simp
    | cons d w => rw [List.cons_prefix_cons, List.cons_prefix_cons, ih hw.2]

/-- No old separator is left. -/
theorem not_infix_replace (hab : a ≠ b) (has : lead ∉ a :: as) (hbs : lead ∉ b :: bs) (s : Text) :
    ¬ lead :: a :: as <:+: replace (lead :: a :: as) (lead :: b :: bs) s := by
  refine replace_induction (List.cons_ne_nil _ _) (motive := fun _ t => ¬ lead :: a :: as <:+: t) (by simp) ?_ ?_ s
  · intro s ih
    rw [List.cons_append, List.infix_cons_iff, List.cons_append, List.cons_prefix_cons, List.cons_prefix_cons,
      ← List.cons_append, infix_append_iff hbs]
    rintro (⟨-, h, -⟩ | h)
    · exact hab h
    · exact ih h
  · intro c s hkeep ih
    rw [List.infix_cons_iff]
    rintro (h | h)
    · rw [List.cons_prefix_cons, prefix_replace_iff s (inert_of_not_mem a b has), ← List.cons_prefix_cons] at h
      exact hkeep h
    · exact ih h

/-- What holds no part of a separator stands where it stood. -/
theorem infix_replace_iff {c : Char} {w : Text} (hw : Inert lead a b (c :: w)) (has : c ∉ a :: as) (hbs : c ∉ b :: bs)
    (s : Text) : c :: w <:+: replace (lead :: a :: as) (lead :: b :: bs) s ↔ c :: w <:+: s := by
  refine replace_induction (List.cons_ne_nil _ _) (motive := fun s t => c :: w <:+: t ↔ c :: w <:+: s) Iff.rfl ?_ ?_ s
  · intro s ih
    have hold : lead :: a :: as ++ s = lead :: (a :: as ++ s) := rfl
    have hapart := not_prefix_of_inert hw (List.cons_ne_nil c w)
    rw [hold, List.cons_append, List.infix_cons_iff, List.infix_cons_iff, infix_append_iff has, infix_append_iff hbs,
      ih]
    simp only [List.cons_append, (hapart _).1, (hapart _).2, false_or]
  · intro d s _ ih
    rw [List.infix_cons_iff, List.infix_cons_iff, ih, List.cons_prefix_cons, List.cons_prefix_cons,
      prefix_replace_iff s hw.2]

end Separators

end Text
end ImportDispatch

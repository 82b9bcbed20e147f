import ImportDispatch.Text
import Mathlib.Data.List.Basic
import Mathlib.Data.List.TakeWhile
/-!
# Pieces of a text

Paths are read as pieces between slashes and put together again from them.  Splitting undoes joining when no piece holds
a separator (`splitBy_join`), it goes through an appended text (`splitBy_append_sep`), and a finer splitting is a
splitting of the pieces (`splitBy_flatMap`).  The pieces are what stands between neighbouring separators
(`mem_splitBy_iff`).
-/
namespace ImportDispatch
namespace Text

/-! ## Splitting -/

theorem splitBy_ne_nil (p : Char → Bool) : ∀ s : Text, splitBy p s ≠ []
  | [] => by simp [splitBy]
  | c :: s => by
    unfold splitBy
    split
    · simp
    · split <;> simp

theorem splitBy_cons_sep {p : Char → Bool} {c : Char} (hc : p c = true) (s : Text) :
    splitBy p (c :: s) = [] :: splitBy p s := by
  simp [splitBy, hc]

theorem splitBy_cons {p : Char → Bool} {c : Char} {s piece : Text} {pieces : List Text} (hc : p c = false)
    (h : splitBy p s = piece :: pieces) : splitBy p (c :: s) = (c :: piece) :: pieces := by
  simp [splitBy, hc, h]

theorem splitBy_append_sep {p : Char → Bool} {c : Char} (hc : p c = true) (t : Text) :
    ∀ s : Text, splitBy p (s ++ c :: t) = splitBy p s ++ splitBy p t
  | [] => splitBy_cons_sep hc t
  | d :: s => by
    have ih := splitBy_append_sep hc t s
    rw [List.cons_append]
    by_cases hd : p d = true
    · rw [splitBy_cons_sep hd, splitBy_cons_sep hd, ih, List.cons_append]
    · rw [Bool.not_eq_true] at hd
      cases hs : splitBy p s with
      | nil => exact absurd hs (splitBy_ne_nil p s)
      | cons piece pieces =>
        rw [hs, List.cons_append] at ih
        rw [splitBy_cons hd ih, splitBy_cons hd hs, List.cons_append]

theorem splitBy_of_none {p : Char → Bool} : ∀ {s : Text}, (∀ c ∈ s, p c = false) → splitBy p s = [s]
  | [], _ => rfl
  | c :: s, h => by
    have hs : splitBy p s = [s] := splitBy_of_none fun d hd => h d (List.mem_cons_of_mem _ hd)
    exact splitBy_cons (h c List.mem_cons_self) hs

theorem splitBy_of_not_mem {mark : Char} {s : Text} (h : mark ∉ s) : splitBy (· == mark) s = [s] :=
  splitBy_of_none fun c hc => by simpa using ne_of_mem_of_not_mem hc h

theorem splitBy_mark {mark : Char} {s : Text} (h : mark ∉ s) (t : Text) :
    splitBy (· == mark) (s ++ mark :: t) = s :: splitBy (· == mark) t := by
  rw [splitBy_append_sep (by simp), splitBy_of_not_mem h, List.singleton_append]

theorem splitBy_append_of_none {p : Char → Bool} {t first : Text} {rest : List Text} (ht : splitBy p t = first :: rest) :
    ∀ {s : Text}, (∀ c ∈ s, p c = false) → splitBy p (s ++ t) = (s ++ first) :: rest
  | [], _ => ht
  | c :: s, h => by
    have ih := splitBy_append_of_none ht fun d hd => h d (List.mem_cons_of_mem c hd)
    exact splitBy_cons (h c List.mem_cons_self) ih

theorem not_sep_of_mem_splitBy {p : Char → Bool} : ∀ {s piece : Text}, piece ∈ splitBy p s → ∀ c ∈ piece, p c = false
  | [], piece, h, c, hc => by
    obtain rfl : piece = [] := by simpa [splitBy] using h
    cases hc
  | d :: s, piece, h, c, hc => by
    by_cases hd : p d = true
    · rw [splitBy_cons_sep hd] at h
      rcases List.mem_cons.1 h with rfl | h
      · cases hc
      · exact not_sep_of_mem_splitBy h c hc
    · rw [Bool.not_eq_true] at hd
      cases hs : splitBy p s with
      | nil => exact absurd hs (splitBy_ne_nil p s)
      | cons first pieces =>
        rw [splitBy_cons hd hs] at h
        rcases List.mem_cons.1 h with rfl | h
        · rcases List.mem_cons.1 hc with rfl | hc
          · exact hd
          · exact not_sep_of_mem_splitBy (by rw [hs]; exact List.mem_cons_self) c hc
        · exact not_sep_of_mem_splitBy (by rw [hs]; exact List.mem_cons_of_mem _ h) c hc

theorem splitBy_join {p : Char → Bool} {glue : Char} (hglue : p glue = true) :
    ∀ {pieces : List Text}, pieces ≠ [] → (∀ piece ∈ pieces, ∀ c ∈ piece, p c = false) →
      splitBy p (join [glue] pieces) = pieces
  | [piece], _, h => splitBy_of_none (h piece List.mem_cons_self)
  | piece :: next :: pieces, _, h => by
    have ih := splitBy_join hglue (List.cons_ne_nil next pieces) fun x hx => h x (List.mem_cons_of_mem _ hx)
    rw [join, List.append_assoc, List.singleton_append, splitBy_append_sep hglue, ih,
      splitBy_of_none (h piece List.mem_cons_self), List.singleton_append]

/-- Pieces that hold separators are split further. -/
theorem splitBy_join_flatMap {p : Char → Bool} {glue : Char} (hglue : p glue = true) :
    ∀ {pieces : List Text}, pieces ≠ [] → splitBy p (join [glue] pieces) = pieces.flatMap (splitBy p)
  | [piece], _ => by simp [join]
  | piece :: next :: pieces, _ => by
    have ih := splitBy_join_flatMap hglue (List.cons_ne_nil next pieces)
    rw [join, List.append_assoc, List.singleton_append, splitBy_append_sep hglue, ih]
    rfl

/-- What is joined begins with the first piece, and every other one has the glue before it. -/
theorem join_cons (glue piece : Text) : ∀ pieces : List Text,
    join glue (piece :: pieces) = piece ++ pieces.flatMap (glue ++ ·)
  | [] => by simp [join]
  | next :: pieces => by
    rw [join, join_cons glue next pieces, List.flatMap_cons, List.append_assoc, List.append_assoc]

theorem join_append (glue : Text) {pieces : List Text} (h : pieces ≠ []) (more : List Text) :
    join glue (pieces ++ more) = join glue pieces ++ more.flatMap (glue ++ ·) := by
  cases pieces with
  | nil => exact absurd rfl h
  | cons piece pieces => rw [List.cons_append, join_cons, join_cons, List.flatMap_append, List.append_assoc]

theorem join_splitBy (glue : Char) : ∀ s : Text, join [glue] (splitBy (· == glue) s) = s
  | [] => rfl
  | c :: s => by
    have ih := join_splitBy glue s
    cases hs : splitBy (· == glue) s with
    | nil => exact absurd hs (splitBy_ne_nil _ s)
    | cons piece pieces =>
      rw [hs] at ih
      by_cases hc : c = glue
      · subst hc
        rw [splitBy_cons_sep (by simp), hs, join, ih]
        rfl
      · rw [splitBy_cons (by simpa using hc) hs]
        cases pieces with
        | nil => rw [join] at ih ⊢; rw [ih]
        | cons next pieces => rw [join] at ih ⊢; rw [← ih]; rfl

/-- A piece of a text: no separator is in it, and what stands next to it on either side is one. -/
structure IsPiece (p : Char → Bool) (piece s : Text) : Prop where
  no_sep : ∀ c ∈ piece, p c = false
  place : ∃ before after, s = before ++ piece ++ after ∧ (∀ c, before.getLast? = some c → p c = true) ∧
    ∀ c, after.head? = some c → p c = true

/-- What stands behind the first piece: nothing, or a separator and the other pieces. -/
theorem splitBy_eq_cons {p : Char → Bool} : ∀ {s first : Text} {rest : List Text}, splitBy p s = first :: rest →
    rest = [] ∧ s = first ∨ ∃ c t, p c = true ∧ s = first ++ c :: t ∧ splitBy p t = rest
  | [], first, rest, h => by
    obtain ⟨rfl, rfl⟩ := List.cons.inj h
    exact .inl ⟨rfl, rfl⟩
  | c :: s, first, rest, h => by
    by_cases hc : p c = true
    · rw [splitBy_cons_sep hc] at h
      obtain ⟨rfl, rfl⟩ := List.cons.inj h
      exact .inr ⟨c, s, hc, rfl, rfl⟩
    · rw [Bool.not_eq_true] at hc
      cases hs : splitBy p s with
      | nil => exact absurd hs (splitBy_ne_nil p s)
      | cons piece pieces =>
        rw [splitBy_cons hc hs] at h
        obtain ⟨rfl, rfl⟩ := List.cons.inj h
        rcases splitBy_eq_cons hs with ⟨rfl, rfl⟩ | ⟨d, t, hd, rfl, ht⟩
        · exact .inl ⟨rfl, rfl⟩
        · exact .inr ⟨d, t, hd, rfl, ht⟩

/-- What holds no separator becomes a part of the last piece. -/
theorem splitBy_append_last {p : Char → Bool} {last t : Text} (ht : ∀ c ∈ t, p c = false) :
    ∀ {front : List Text} {s : Text}, splitBy p s = front ++ [last] → splitBy p (s ++ t) = front ++ [last ++ t]
  | [], s, h => by
    have hlast : ∀ c ∈ last, p c = false := not_sep_of_mem_splitBy (by rw [h]; exact List.mem_singleton_self last)
    rcases splitBy_eq_cons h with ⟨-, rfl⟩ | ⟨c, rest, -, -, hrest⟩
    · exact splitBy_of_none fun c hc => (List.mem_append.1 hc).elim (hlast c) (ht c)
    · exact absurd hrest (splitBy_ne_nil p rest)
  | first :: front, s, h => by
    have hfirst : ∀ c ∈ first, p c = false := not_sep_of_mem_splitBy (by rw [h]; exact List.mem_cons_self)
    rcases splitBy_eq_cons h with ⟨hnil, -⟩ | ⟨c, rest, hc, rfl, hrest⟩
    · exact absurd hnil (by simp)
    · rw [List.append_assoc, List.cons_append, splitBy_append_sep hc, splitBy_of_none hfirst,
        splitBy_append_last ht hrest]
      rfl

theorem place_of_mem_splitBy {p : Char → Bool} {piece : Text} : ∀ {pieces : List Text} {s : Text},
    splitBy p s = pieces → piece ∈ pieces → ∃ before after, s = before ++ piece ++ after ∧
      (∀ c, before.getLast? = some c → p c = true) ∧ ∀ c, after.head? = some c → p c = true
  | first :: rest, s, hs, h => by
    rcases splitBy_eq_cons hs with ⟨rfl, rfl⟩ | ⟨c, t, hc, rfl, ht⟩
    · obtain rfl := List.mem_singleton.1 h
      exact ⟨[], [], by simp, by simp, by simp⟩
    rcases List.mem_cons.1 h with rfl | h
    · exact ⟨[], c :: t, by simp, by simp, by simpa using hc⟩
    · obtain ⟨before, after, rfl, hbefore, hafter⟩ := place_of_mem_splitBy ht h
      refine ⟨first ++ c :: before, after, by simp, fun d hd => ?_, hafter⟩
      rw [List.getLast?_append_of_ne_nil _ (List.cons_ne_nil c before), List.getLast?_cons] at hd
      cases hlast : before.getLast? with
      | none =>
        rw [hlast] at hd
        cases hd
        exact hc
      | some b =>
        rw [hlast] at hd
        cases hd
        exact hbefore b hlast

/-- The pieces that splitting gives are the pieces of the text. -/
theorem mem_splitBy_iff {p : Char → Bool} {s piece : Text} : piece ∈ splitBy p s ↔ IsPiece p piece s := by
  constructor
  · intro h
    exact ⟨not_sep_of_mem_splitBy h, place_of_mem_splitBy rfl h⟩
  · rintro ⟨hpiece, before, after, rfl, hbefore, hafter⟩
    have hfront : piece ∈ splitBy p (before ++ piece) := by
      rcases List.eq_nil_or_concat' before with rfl | ⟨front, c, rfl⟩
      · rw [List.nil_append, splitBy_of_none hpiece]
        exact List.mem_cons_self
      · rw [List.append_assoc, List.singleton_append, splitBy_append_sep (hbefore c (by simp)),
          splitBy_of_none hpiece]
        exact List.mem_append_right _ List.mem_cons_self
    cases after with
    | nil => rwa [List.append_nil]
    | cons c after =>
      rw [splitBy_append_sep (hafter c rfl)]
      exact List.mem_append_left _ hfront

/-- More separators split the pieces further. -/
theorem splitBy_flatMap {p q : Char → Bool} (hpq : ∀ c, p c = true → q c = true) :
    ∀ s : Text, splitBy q s = (splitBy p s).flatMap (splitBy q)
  | [] => rfl
  | c :: s => by
    have ih := splitBy_flatMap hpq s
    by_cases hp : p c = true
    · rw [splitBy_cons_sep hp, splitBy_cons_sep (hpq c hp), ih, List.flatMap_cons]
      rfl
    · rw [Bool.not_eq_true] at hp
      cases hs : splitBy p s with
      | nil => exact absurd hs (splitBy_ne_nil p s)
      | cons piece pieces =>
        rw [hs, List.flatMap_cons] at ih
        rw [splitBy_cons hp hs, List.flatMap_cons]
        by_cases hq : q c = true
        · rw [splitBy_cons_sep hq, splitBy_cons_sep hq, ih, List.cons_append]
        · rw [Bool.not_eq_true] at hq
          cases hpiece : splitBy q piece with
          | nil => exact absurd hpiece (splitBy_ne_nil q piece)
          | cons first rest =>
            rw [hpiece, List.cons_append] at ih
            rw [splitBy_cons hq ih, splitBy_cons hq hpiece, List.cons_append]

/-! ## Trimming -/

theorem trimEnd_append_replicate {mark : Char} {front : Text} (h : front.getLast? ≠ some mark) (n : Nat) :
    trimEnd (· == mark) (front ++ List.replicate n mark) = front := by
  unfold trimEnd
  rw [List.reverse_append, List.reverse_replicate, List.dropWhile_append_of_pos (by simp)]
  cases hfront : front.reverse with
  | nil => simpa using hfront.symm
  | cons c rest =>
    have hc : front.getLast? = some c := by rw [← List.head?_reverse, hfront]; rfl
    rw [List.dropWhile_cons_of_neg (by rw [hc] at h; simpa using h), ← hfront, List.reverse_reverse]

/-- Trimming takes a row of marks away, and none is left. -/
theorem exists_trimEnd (mark : Char) (s : Text) :
    ∃ n, s = trimEnd (· == mark) s ++ List.replicate n mark ∧ (trimEnd (· == mark) s).getLast? ≠ some mark := by
  unfold trimEnd
  refine ⟨(s.reverse.takeWhile (· == mark)).length, ?_, fun h => ?_⟩
  · have hmarks : s.reverse.takeWhile (· == mark) =
        List.replicate (s.reverse.takeWhile (· == mark)).length mark :=
      List.eq_replicate_iff.2 ⟨rfl, fun c hc => by simpa using List.mem_takeWhile_imp hc⟩
    rw [← List.reverse_replicate, ← hmarks, ← List.reverse_append, List.takeWhile_append_dropWhile,
      List.reverse_reverse]
  · rw [List.getLast?_reverse] at h
    have := List.head?_dropWhile_not (· == mark) s.reverse
    rw [h] at this
    simp at this

/-! ## Around a mark -/

theorem beforeLast_eq_none {mark : Char} : ∀ {s : Text}, mark ∉ s → beforeLast mark s = none
  | [], _ => rfl
  | c :: s, h => by
    rw [List.mem_cons, not_or] at h
    simp [beforeLast, beforeLast_eq_none h.2, Ne.symm h.1]

theorem beforeLast_append {mark : Char} {t : Text} (ht : mark ∉ t) :
    ∀ s : Text, beforeLast mark (s ++ mark :: t) = some s
  | [] => by simp [beforeLast, beforeLast_eq_none ht]
  | c :: s => by simp [beforeLast, beforeLast_append ht s]

/-- What stands before the first mark and what stands behind it. -/
theorem first_mark {mark : Char} : ∀ {s t x y : Text}, mark ∉ s → mark ∉ t → s ++ mark :: x = t ++ mark :: y →
    s = t ∧ x = y
  | [], [], _, _, _, _, h => by simpa using h
  | [], c :: t, _, _, _, ht, h => by
    rw [List.nil_append, List.cons_append, List.cons.injEq] at h
    exact absurd (by rw [h.1]; exact List.mem_cons_self) ht
  | c :: s, [], _, _, hs, _, h => by
    rw [List.nil_append, List.cons_append, List.cons.injEq] at h
    exact absurd (by rw [h.1]; exact List.mem_cons_self) hs
  | c :: s, d :: t, x, y, hs, ht, h => by
    rw [List.cons_append, List.cons_append, List.cons.injEq] at h
    rw [List.mem_cons, not_or] at hs ht
    obtain ⟨hst, hxy⟩ := first_mark hs.2 ht.2 h.2
    exact ⟨by rw [h.1, hst], hxy⟩

theorem mark_prefix_iff {mark : Char} {s t x y : Text} (hs : mark ∉ s) (ht : mark ∉ t) :
    s ++ mark :: x <+: t ++ mark :: y ↔ s = t ∧ x <+: y := by
  constructor
  · rintro ⟨rest, hrest⟩
    rw [List.append_assoc, List.cons_append] at hrest
    obtain ⟨rfl, hxy⟩ := first_mark hs ht hrest
    exact ⟨rfl, rest, hxy⟩
  · rintro ⟨rfl, rest, rfl⟩
    exact ⟨rest, by simp⟩

end Text
end ImportDispatch

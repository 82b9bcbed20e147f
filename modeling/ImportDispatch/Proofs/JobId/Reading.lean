import ImportDispatch.Proofs.JobId.Shape
import ImportDispatch.Proofs.Text.Pieces
/-!
# Ids read back

An id is read from its end.  The pieces between its last dashes are suffixes as long as they look like one, and in front
of them stand the two halves of a stamp.  A half of a stamp is longer than a suffix, so that the reader stops at the right
piece, and all that is left is the name, however it looks.  The reader finds what an id was made of and accepts nothing
else (`read?_eq_some_iff`), so that an id has only one reading (`grown_injective`).
-/
namespace ImportDispatch
namespace JobId

/-- What an id is made of, with the name as it stands there. -/
structure Parts where
  name : Text
  stamp : Text
  suffixes : List Text
deriving DecidableEq, Repr

def Parts.text (parts : Parts) : Text := grown (parts.name ++ '-' :: parts.stamp) parts.suffixes

structure Parts.WellFormed (parts : Parts) : Prop where
  stamp : IsStamp parts.stamp
  suffixes : ∀ x ∈ parts.suffixes, IsSuffix x

/-- Half of a stamp: its date or its time. -/
def IsSixDigits (s : Text) : Prop := s.length = 6 ∧ s.all Decimal.isDigit = true

instance (s : Text) : Decidable (IsSixDigits s) := inferInstanceAs (Decidable (_ ∧ _))

/-- The parts of an id, read from its end. -/
def read? (id : Text) : Option Parts :=
  let pieces := (Text.splitBy (· == '-') id).reverse
  match pieces.dropWhile (IsSuffix ·) with
  | clock :: date :: last :: front =>
    if IsSixDigits date ∧ IsSixDigits clock then
      some ⟨Text.join ['-'] (last :: front).reverse, date ++ '-' :: clock, (pieces.takeWhile (IsSuffix ·)).reverse⟩
    else none
  | _ => none

/-! ## The pieces of an id -/

theorem IsSixDigits.no_dash {s : Text} (h : IsSixDigits s) : '-' ∉ s := fun hdash => by
  have hdigit := List.all_eq_true.1 h.2 _ hdash
  revert hdigit
  decide

theorem IsSixDigits.not_suffix {s : Text} (h : IsSixDigits s) : ¬IsSuffix s := fun hsuffix => by
  have hlength := hsuffix.length
  rw [h.1] at hlength
  omega

theorem isStamp_iff {stamp : Text} :
    IsStamp stamp ↔ ∃ date clock, stamp = date ++ '-' :: clock ∧ IsSixDigits date ∧ IsSixDigits clock := by
  simp only [IsSixDigits, List.all_eq_true]
  constructor
  · rintro ⟨date, clock, hstamp, hdate, hclock, hdate', hclock'⟩
    exact ⟨date, clock, hstamp, ⟨hdate, hdate'⟩, hclock, hclock'⟩
  · rintro ⟨date, clock, hstamp, ⟨hdate, hdate'⟩, hclock, hclock'⟩
    exact ⟨date, clock, hstamp, hdate, hclock, hdate', hclock'⟩

theorem splitBy_grown : ∀ {suffixes : List Text} (id : Text), (∀ x ∈ suffixes, '-' ∉ x) →
    Text.splitBy (· == '-') (grown id suffixes) = Text.splitBy (· == '-') id ++ suffixes
  | [], id, _ => by rw [grown_nil, List.append_nil]
  | suffix :: suffixes, id, h => by
    rw [List.forall_mem_cons] at h
    rw [grown_cons, splitBy_grown _ h.2, Text.splitBy_append_sep (by simp), Text.splitBy_of_not_mem h.1,
      List.append_assoc, List.singleton_append]

theorem splitBy_stamped (name : Text) {date clock : Text} (hdate : IsSixDigits date) (hclock : IsSixDigits clock) :
    Text.splitBy (· == '-') (name ++ '-' :: (date ++ '-' :: clock)) = Text.splitBy (· == '-') name ++ [date, clock] := by
  rw [Text.splitBy_append_sep (by simp), Text.splitBy_mark hdate.no_dash, Text.splitBy_of_not_mem hclock.no_dash]

/-! ## Reading -/

theorem read?_grown (name : Text) {stamp : Text} (hstamp : IsStamp stamp) {suffixes : List Text}
    (hsuffixes : ∀ x ∈ suffixes, IsSuffix x) :
    read? (grown (name ++ '-' :: stamp) suffixes) = some ⟨name, stamp, suffixes⟩ := by
  obtain ⟨date, clock, rfl, hdate, hclock⟩ := isStamp_iff.1 hstamp
  have hreverse : ∀ x ∈ suffixes.reverse, decide (IsSuffix x) = true := fun x hx =>
    decide_eq_true (hsuffixes x (List.mem_reverse.1 hx))
  have hpieces : (Text.splitBy (· == '-') (grown (name ++ '-' :: (date ++ '-' :: clock)) suffixes)).reverse =
      suffixes.reverse ++ clock :: date :: (Text.splitBy (· == '-') name).reverse := by
    rw [splitBy_grown _ fun x hx => (hsuffixes x hx).no_dash, splitBy_stamped name hdate hclock]
    simp
  have hstop : decide (IsSuffix clock) = false := decide_eq_false hclock.not_suffix
  have hdrop : (suffixes.reverse ++ clock :: date :: (Text.splitBy (· == '-') name).reverse).dropWhile (IsSuffix ·) =
      clock :: date :: (Text.splitBy (· == '-') name).reverse := by
    rw [List.dropWhile_append_of_pos hreverse, List.dropWhile_cons, hstop]
    rfl
  have htake : (suffixes.reverse ++ clock :: date :: (Text.splitBy (· == '-') name).reverse).takeWhile (IsSuffix ·) =
      suffixes.reverse := by
    rw [List.takeWhile_append_of_pos hreverse, List.takeWhile_cons, hstop]
    simp
  cases hname : (Text.splitBy (· == '-') name).reverse with
  | nil => exact absurd (List.reverse_eq_nil_iff.1 hname) (Text.splitBy_ne_nil _ name)
  | cons last front =>
    have hjoin : Text.join ['-'] (last :: front).reverse = name := by
      rw [← hname, List.reverse_reverse, Text.join_splitBy]
    rw [hname] at hpieces hdrop htake
    simp only [read?, hpieces, hdrop, htake, if_pos (And.intro hdate hclock), hjoin, List.reverse_reverse]

theorem text_of_read? {id : Text} {parts : Parts} (h : read? id = some parts) :
    parts.WellFormed ∧ parts.text = id := by
  unfold read? at h
  dsimp only at h
  split at h
  · rename_i clock date last front hdrop
    split at h
    · rename_i hsix
      cases h
      have hpieces := List.takeWhile_append_dropWhile (p := (IsSuffix ·)) (l := (Text.splitBy (· == '-') id).reverse)
      have htaken : ∀ x ∈ (Text.splitBy (· == '-') id).reverse.takeWhile (IsSuffix ·), IsSuffix x := fun x hx => by
        simpa using List.mem_takeWhile_imp hx
      rw [hdrop] at hpieces
      generalize (Text.splitBy (· == '-') id).reverse.takeWhile (IsSuffix ·) = taken at hpieces htaken
      refine ⟨⟨isStamp_iff.2 ⟨date, clock, rfl, hsix⟩, fun x hx => htaken x (List.mem_reverse.1 hx)⟩, ?_⟩
      have hsplit : Text.splitBy (· == '-') id = (last :: front).reverse ++ ([date, clock] ++ taken.reverse) := by
        rw [← List.reverse_reverse (Text.splitBy _ id), ← hpieces]
        simp
      rw [← Text.join_splitBy '-' id, hsplit, Text.join_append _ (by simp), Parts.text, grown_eq]
      simp
    · cases h
  · cases h

/-- **The reader finds what an id was made of, and accepts nothing else.** -/
theorem read?_eq_some_iff {id : Text} {parts : Parts} :
    read? id = some parts ↔ parts.WellFormed ∧ parts.text = id :=
  ⟨text_of_read?, fun ⟨hparts, hid⟩ => hid ▸ read?_grown parts.name hparts.stamp hparts.suffixes⟩

/-- **An id has one reading** as a name, a stamp and a row of suffixes. -/
theorem grown_injective {name name' stamp stamp' : Text} (hs : IsStamp stamp) (hs' : IsStamp stamp')
    {suffixes suffixes' : List Text} (hx : ∀ x ∈ suffixes, IsSuffix x) (hx' : ∀ x ∈ suffixes', IsSuffix x)
    (h : grown (name ++ '-' :: stamp) suffixes = grown (name' ++ '-' :: stamp') suffixes') :
    name = name' ∧ stamp = stamp' ∧ suffixes = suffixes' := by
  have hread := read?_grown name hs hx
  rw [h, read?_grown name' hs' hx'] at hread
  cases hread
  exact ⟨rfl, rfl, rfl⟩

end JobId
end ImportDispatch

import ImportDispatch.JobId
import ImportDispatch.Proofs.Calendar.Stamp
/-!
# The shape of an id

An id is a name, a stamp and a row of suffixes, each behind a dash.  Names may look like anything; stamps and suffixes
have one shape each.
-/
namespace ImportDispatch
namespace JobId

/-! ## Suffixes and stamps -/

/-- A suffix: two letters or digits. -/
structure IsSuffix (suffix : Text) : Prop where
  length : suffix.length = 2
  alphanumeric : ∀ c ∈ suffix, c.isAlphanum = true

instance (suffix : Text) : Decidable (IsSuffix suffix) :=
  decidable_of_iff (suffix.length = 2 ∧ suffix.all Char.isAlphanum = true)
    ⟨fun h => ⟨h.1, List.all_eq_true.1 h.2⟩, fun h => ⟨h.1, List.all_eq_true.2 h.2⟩⟩

/-- A stamp: six digits, a dash, and six digits. -/
structure IsStamp (stamp : Text) : Prop where
  split : ∃ date clock, stamp = date ++ '-' :: clock ∧ date.length = 6 ∧ clock.length = 6 ∧
    (∀ c ∈ date, Decimal.isDigit c = true) ∧ ∀ c ∈ clock, Decimal.isDigit c = true

/-- An id grown by suffixes. -/
def grown (id : Text) (suffixes : List Text) : Text := suffixes.foldl (fun id suffix => id ++ '-' :: suffix) id

@[simp] theorem grown_nil (id : Text) : grown id [] = id := rfl

@[simp] theorem grown_cons (id suffix : Text) (suffixes : List Text) :
    grown id (suffix :: suffixes) = grown (id ++ '-' :: suffix) suffixes := rfl

theorem grown_eq : ∀ (id : Text) (suffixes : List Text), grown id suffixes = id ++ suffixes.flatMap ('-' :: ·)
  | id, [] => by simp
  | id, suffix :: suffixes => by simp [grown_eq _ suffixes]

theorem IsSuffix.no_dash {suffix : Text} (h : IsSuffix suffix) : '-' ∉ suffix := fun hd => by
  have := h.alphanumeric _ hd
  revert this
  decide

theorem IsSuffix.no_slash {suffix : Text} (h : IsSuffix suffix) : '/' ∉ suffix := fun hslash =>
  absurd (h.alphanumeric _ hslash) (by decide)

theorem IsStamp.no_slash {stamp : Text} (h : IsStamp stamp) : '/' ∉ stamp := by
  obtain ⟨date, clock, rfl, -, -, hdate, hclock⟩ := h.split
  intro hslash
  rcases List.mem_append.1 hslash with hslash | hslash
  · exact absurd (hdate _ hslash) (by decide)
  rcases List.mem_cons.1 hslash with hslash | hslash
  · exact absurd hslash (by decide)
  · exact absurd (hclock _ hslash) (by decide)

theorem isStamp_stampText (t : LocalTime) : IsStamp t.stampText :=
  ⟨t.stampDate, t.stampClock, t.stampText_eq, t.stampDate_digits.1, t.stampClock_digits.1, t.stampDate_digits.2,
    t.stampClock_digits.2⟩

end JobId
end ImportDispatch

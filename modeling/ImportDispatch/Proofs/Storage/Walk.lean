import ImportDispatch.Import.Rules
import ImportDispatch.Proofs.Text.Pieces
import ImportDispatch.Storage.FileTree
import Mathlib.Data.List.Basic
/-!
# Walks in a growing tree

Nothing is ever taken out of a tree: it only grows, and what a path leads to stays where it is (`walk_plus`).  Two kinds
of segments occur in a path: names, which lead one step down (`walk_names`), and the rest, which come with the home
directory and are only known to lead to it.
-/
namespace ImportDispatch

/-- A segment that names an entry of a directory. -/
structure IsName (segment : Text) : Prop where
  no_slash : '/' ∉ segment
  not_stray : isStraySegment segment = false

namespace IsName

variable {segment : Text}

theorem not_idle (h : IsName segment) : segment.isEmpty = false ∧ (segment == ".".toList) = false := by
  have := h.not_stray
  simp only [isStraySegment, Bool.or_eq_false_iff] at this
  exact this.1

theorem ne_nil (h : IsName segment) : segment ≠ [] := by
  rintro rfl
  exact absurd h.not_stray (by decide)

theorem head (h : IsName segment) : segment.head? ≠ some '/' := fun he => h.no_slash (List.mem_of_head? he)

theorem of_dash (hslash : '/' ∉ segment) (hdash : '-' ∈ segment) : IsName segment where
  no_slash := hslash
  not_stray := by
    simp only [isStraySegment, Bool.or_eq_false_iff, List.isEmpty_eq_false_iff, beq_eq_false_iff_ne]
    refine ⟨⟨?_, ?_⟩, ?_⟩ <;> rintro rfl <;> revert hdash <;> decide

end IsName

namespace FileTree

/-- A tree with more entries. -/
def plus (tree : FileTree) (added : List (List Text × Entry)) : FileTree :=
  { tree with entries := tree.entries ++ added }

@[simp] theorem plus_nil (tree : FileTree) : tree.plus [] = tree := by simp [plus]

@[simp] theorem plus_plus (tree : FileTree) (added more : List (List Text × Entry)) :
    (tree.plus added).plus more = tree.plus (added ++ more) := by simp [plus]

variable {tree : FileTree} {added : List (List Text × Entry)} {names place p : List Text} {entry : Entry}

/-! ## Entries -/

@[simp] theorem entry?_nil (tree : FileTree) : tree.entry? [] = some .directory := rfl

theorem entry?_of_mem (h : (names, entry) ∈ tree.entries) : tree.entry? names ≠ none := by
  unfold entry?
  split
  · simp
  · rw [Ne, Option.map_eq_none_iff, List.find?_eq_none]
    intro hnone
    exact hnone _ h (by simp)

theorem mem_of_entry? (hne : names ≠ []) (h : tree.entry? names = some entry) : (names, entry) ∈ tree.entries := by
  unfold entry? at h
  rw [if_neg (by simpa using hne), Option.map_eq_some_iff] at h
  obtain ⟨⟨found, e⟩, hf, rfl⟩ := h
  have hname := List.find?_some hf
  obtain rfl : found = names := by simpa using hname
  exact List.mem_of_find?_eq_some hf

theorem entry?_plus (h : tree.entry? names = some entry) : FileTree.entry? (tree.plus added) names = some entry := by
  unfold entry? at h ⊢
  split
  · rw [if_pos (by assumption)] at h
    exact h
  · rw [if_neg (by assumption), Option.map_eq_some_iff] at h
    obtain ⟨found, hf, he⟩ := h
    simp only [plus, List.find?_append, hf, Option.some_or, Option.map_some, he]

/-! ## Walks -/

def enter (tree : FileTree) (place : List Text) (segment : Text) : Except AccessError (List Text) :=
  match tree.entry? place with
  | none => .error .missing
  | some (.file _) => .error .notDirectory
  | some .directory =>
    if segment.isEmpty || segment == ".".toList then .ok place
    else if segment == "..".toList then .ok place.dropLast
    else if 255 < Text.utf8Size segment then .error .tooLong
    else if (tree.entry? (place ++ [segment])).isNone then .error .missing
    else .ok (place ++ [segment])

theorem walk_nil (tree : FileTree) (place : List Text) : tree.walk place [] = .ok place := by rw [walk]

theorem walk_cons (tree : FileTree) (place : List Text) (segment : Text) (rest : List Text) :
    tree.walk place (segment :: rest) = (tree.enter place segment).bind fun next => tree.walk next rest := by
  rw [walk]
  unfold enter
  cases tree.entry? place with
  | none => rfl
  | some entry =>
    cases entry with
    | file content => rfl
    | directory =>
      dsimp only
      split
      · rfl
      split
      · rfl
      split
      · rfl
      split <;> rfl

theorem walk_append (tree : FileTree) : ∀ (place s t : List Text),
    tree.walk place (s ++ t) = (tree.walk place s).bind fun next => tree.walk next t
  | place, [], t => by rw [walk_nil]; rfl
  | place, segment :: s, t => by
    rw [List.cons_append, walk_cons, walk_cons]
    cases tree.enter place segment with
    | error e => rfl
    | ok next => exact walk_append tree next s t

theorem walk_append_ok {s t : List Text} (h : tree.walk place (s ++ t) = .ok p) :
    ∃ next, tree.walk place s = .ok next ∧ tree.walk next t = .ok p := by
  rw [walk_append] at h
  cases hs : tree.walk place s with
  | error e => rw [hs] at h; cases h
  | ok next => rw [hs] at h; exact ⟨next, rfl, h⟩

theorem enter_directory {segment : Text} (h : tree.enter place segment = .ok p) :
    tree.entry? place = some .directory := by
  unfold enter at h
  split at h
  · cases h
  · cases h
  · assumption

theorem enter_plus {segment : Text} (h : tree.enter place segment = .ok p) :
    (tree.plus added).enter place segment = .ok p := by
  have hdir := enter_directory h
  unfold enter at h ⊢
  rw [hdir] at h
  rw [entry?_plus hdir]
  dsimp only at h ⊢
  split at h
  · rw [if_pos (by assumption)]; exact h
  rw [if_neg (by assumption)]
  split at h
  · rw [if_pos (by assumption)]; exact h
  rw [if_neg (by assumption)]
  split at h
  · cases h
  rw [if_neg (by assumption)]
  cases he : tree.entry? (place ++ [segment]) with
  | none => rw [he] at h; cases h
  | some e => rw [he] at h; rw [entry?_plus he]; exact h

theorem walk_ne_taken : ∀ {place segments : List Text}, tree.walk place segments ≠ .error .taken
  | place, [] => by simp [walk_nil]
  | place, segment :: rest => by
    rw [walk_cons]
    cases hs : tree.enter place segment with
    | ok next => exact walk_ne_taken
    | error e =>
      rintro he
      cases he
      unfold enter at hs
      split at hs
      · cases hs
      · cases hs
      split at hs
      · cases hs
      split at hs
      · cases hs
      split at hs
      · cases hs
      split at hs <;> cases hs

/-- **What a path leads to stays where it is.** -/
theorem walk_plus : ∀ {place segments : List Text}, tree.walk place segments = .ok p →
    (tree.plus added).walk place segments = .ok p
  | place, [], h => by rw [walk_nil] at h ⊢; exact h
  | place, segment :: rest, h => by
    rw [walk_cons] at h ⊢
    cases hs : tree.enter place segment with
    | error e => rw [hs] at h; cases h
    | ok next =>
      rw [hs] at h
      rw [enter_plus hs]
      exact walk_plus h

/-! ## Segments -/

/-- A segment that stays where it is. -/
def isIdle (segment : Text) : Bool := segment.isEmpty || segment == ".".toList

theorem enter_idle {segment : Text} (hidle : isIdle segment = true) (hdir : tree.entry? place = some .directory) :
    tree.enter place segment = .ok place := by
  unfold enter
  rw [hdir]
  exact if_pos hidle

theorem walk_filter {keep : Text → Bool} (hkeep : ∀ segment, keep segment = false → isIdle segment = true) :
    ∀ {place segments : List Text}, tree.walk place segments = .ok p → tree.walk place (segments.filter keep) = .ok p
  | place, [], h => h
  | place, segment :: rest, h => by
    rw [walk_cons] at h
    cases hs : tree.enter place segment with
    | error e => rw [hs] at h; cases h
    | ok next =>
      rw [hs] at h
      have ih : tree.walk next (rest.filter keep) = .ok p := walk_filter hkeep h
      by_cases hk : keep segment = true
      · rw [List.filter_cons_of_pos hk, walk_cons, hs]
        exact ih
      · rw [List.filter_cons_of_neg hk]
        rw [Bool.not_eq_true] at hk
        rw [enter_idle (hkeep segment hk) (enter_directory hs)] at hs
        cases hs
        exact ih

theorem enter_of_not_stray {segment : Text} (hstray : isStraySegment segment = false)
    (hdir : tree.entry? place = some .directory) : tree.enter place segment =
      if 255 < Text.utf8Size segment then .error .tooLong
      else if (tree.entry? (place ++ [segment])).isNone then .error .missing
      else .ok (place ++ [segment]) := by
  simp only [isStraySegment, Bool.or_eq_false_iff] at hstray
  unfold enter
  rw [hdir]
  simp only [hstray.1.1, hstray.1.2, hstray.2, Bool.or_self, Bool.false_eq_true, if_false]

theorem enter_name {segment : Text} (hname : IsName segment) (h : tree.enter place segment = .ok p) :
    p = place ++ [segment] := by
  rw [enter_of_not_stray hname.not_stray (enter_directory h)] at h
  split at h
  · cases h
  split at h
  · cases h
  · cases h
    rfl

/-- **Names lead down, one step each.** -/
theorem walk_names : ∀ {place segments : List Text}, (∀ segment ∈ segments, IsName segment) →
    tree.walk place segments = .ok p → p = place ++ segments
  | place, [], _, h => by
    rw [walk_nil] at h
    cases h
    simp
  | place, segment :: rest, hnames, h => by
    rw [walk_cons] at h
    cases hs : tree.enter place segment with
    | error e => rw [hs] at h; cases h
    | ok next =>
      rw [hs] at h
      obtain rfl := enter_name (hnames segment List.mem_cons_self) hs
      have ih := walk_names (fun s hm => hnames s (List.mem_cons_of_mem _ hm)) h
      rw [ih, List.append_assoc, List.singleton_append]

end FileTree
end ImportDispatch

/-!
# Text

Every name, path, address and document of this library is a list of characters, so that what is said about it
can be proved by recursion on the list.  This module holds the operations the domain needs on such lists: search,
replacement, splitting and trimming, each by recursion from the left.
-/
namespace ImportDispatch

/-- A text is the list of its characters. -/
abbrev Text := List Char

namespace Text

/-! ## Search and replacement -/

/-- Whether `part` stands somewhere in the text, as one piece. -/
def occursIn (part : Text) : Text → Bool
  | [] => part.isEmpty
  | c :: rest => part.isPrefixOf (c :: rest) || occursIn part rest

/-- Every occurrence of `old` becomes `new`: the leftmost first, and the search goes on behind it.  An empty `old`
occurs nowhere. -/
def replace (old new : Text) : Text → Text
  | [] => []
  | c :: rest =>
    if !old.isEmpty && old.isPrefixOf (c :: rest) then new ++ replace old new (rest.drop (old.length - 1))
    else c :: replace old new rest
termination_by s => s.length
decreasing_by
  all_goals simp only [List.length_drop, List.length_cons]; omega

/-! ## Splitting and joining -/

/-- The pieces between the characters that `isSeparator` picks: one more piece than there are such characters. -/
def splitBy (isSeparator : Char → Bool) : Text → List Text
  | [] => [[]]
  | c :: rest =>
    if isSeparator c then [] :: splitBy isSeparator rest
    else match splitBy isSeparator rest with
      | [] => [[c]]
      | piece :: pieces => (c :: piece) :: pieces

/-- The pieces one after the other, with `glue` between neighbours. -/
def join (glue : Text) : List Text → Text
  | [] => []
  | [piece] => piece
  | piece :: next :: pieces => piece ++ glue ++ join glue (next :: pieces)

/-- What stands before the last `mark`, or nothing if there is none. -/
def beforeLast (mark : Char) : Text → Option Text
  | [] => none
  | c :: rest =>
    match beforeLast mark rest with
    | some front => some (c :: front)
    | none => if c = mark then some [] else none

/-! ## Trimming -/

/-- Without the characters at the end that `drops` picks. -/
def trimEnd (drops : Char → Bool) (s : Text) : Text :=
  (s.reverse.dropWhile drops).reverse

/-- Without the characters at both ends that `drops` picks. -/
def trimBoth (drops : Char → Bool) (s : Text) : Text :=
  trimEnd drops (s.dropWhile drops)

/-! ## Letter case, inside ASCII -/

/-- The letters `A` to `Z` become small, all else stays. -/
def asciiLower (s : Text) : Text := s.map Char.toLower

end Text

end ImportDispatch

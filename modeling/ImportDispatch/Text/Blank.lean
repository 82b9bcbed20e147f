import ImportDispatch.Text
/-!
# Blank characters

A field counts as unset when it holds blank characters only, and an import mode may stand between blanks.  "Blank" is
the White_Space property of the Unicode character database, so a no-break space or an ideographic space is blank and a
zero-width space is not.
-/
namespace ImportDispatch
namespace Text

/-- The twenty-five characters of the White_Space property. -/
def isBlankChar (c : Char) : Bool :=
  let n := c.toNat
  (9 ≤ n && n ≤ 13) || n = 0x20 || n = 0x85 || n = 0xA0 || n = 0x1680 || (0x2000 ≤ n && n ≤ 0x200A) ||
    n = 0x2028 || n = 0x2029 || n = 0x202F || n = 0x205F || n = 0x3000

def isBlank (s : Text) : Bool := s.all isBlankChar

/-- Without the blanks at both ends. -/
def trimBlank (s : Text) : Text := trimBoth isBlankChar s

end Text
end ImportDispatch

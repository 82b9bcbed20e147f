import ImportDispatch.Text
import ImportDispatch.Text.HiddenTable
/-!
# Quoted text

How a text is shown to a reader inside a message: between double quotes, with the quote, the backslash and the usual
controls behind a backslash, and every other character that would not show written by its number.
-/
namespace ImportDispatch
namespace Text

/-- Whether a character would not show. -/
def isHidden (c : Char) : Bool :=
  HiddenTable.hidden.any fun r => r.1 ≤ c.toNat && c.toNat ≤ r.2

/-- One character of a quoted text. -/
def quoteChar (c : Char) : Text :=
  if c = '\x00' then ['\\', '0']
  else if c = '\t' then ['\\', 't']
  else if c = '\n' then ['\\', 'n']
  else if c = '\r' then ['\\', 'r']
  else if c = '"' then ['\\', '"']
  else if c = '\\' then ['\\', '\\']
  else if isHidden c then ['\\', 'u', '\x7b'] ++ Nat.toDigits 16 c.toNat ++ ['\x7d']
  else [c]

/-- The text between quotes. -/
def quote (s : Text) : Text := '"' :: s.flatMap quoteChar ++ ['"']

end Text
end ImportDispatch

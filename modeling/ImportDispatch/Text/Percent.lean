import ImportDispatch.Hexadecimal
import ImportDispatch.Text.Utf8
/-!
# Percent signs in addresses

A byte that may not stand in an address is written as a percent sign and two hexadecimal digits.  A percent sign that
two such digits do not follow stands for itself.
-/
namespace ImportDispatch
namespace Text

/-! ## Reading -/

/-- The byte that two hexadecimal digits write. -/
def hexPair? (high low : Char) : Option Nat := do
  let high ← Hexadecimal.value? high
  let low ← Hexadecimal.value? low
  return 16 * high + low

/-- The bytes that a text with percent signs writes. -/
def percentBytes : Text → List Nat
  | '%' :: high :: low :: rest =>
    match hexPair? high low with
    | some byte => byte :: percentBytes rest
    | none => utf8Char '%' ++ percentBytes (high :: low :: rest)
  | c :: rest => utf8Char c ++ percentBytes rest
  | [] => []

/-- The text that a text with percent signs writes, if its bytes are the form of one. -/
def percentDecode? (s : Text) : Option Text := ofUtf8? (percentBytes s)

/-! ## Writing -/

/-- A byte behind a percent sign. -/
def percentByte (byte : Nat) : Text := ['%', Hexadecimal.capital (byte / 16), Hexadecimal.capital byte]

/-- The text with its control characters, all that is not ASCII, and the characters that are `barred` written with
percent signs. -/
def percentEncode (barred : List Char) (s : Text) : Text :=
  s.flatMap fun c =>
    if c.toNat < 0x20 || 0x7E < c.toNat || barred.elem c then (utf8Char c).flatMap percentByte else [c]

end Text
end ImportDispatch

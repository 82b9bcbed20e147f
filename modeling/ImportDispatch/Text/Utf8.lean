import ImportDispatch.Text
/-!
# Text as bytes

The UTF-8 form of a text: how many bytes it takes, its bytes, and the reading of bytes, which refuses what is not the
form of any text.
-/
namespace ImportDispatch
namespace Text

/-- How many bytes the text takes. -/
def utf8Size (s : Text) : Nat := s.foldl (fun n c => n + c.utf8Size) 0

def utf8Char (c : Char) : List Nat :=
  let n := c.toNat
  if n < 0x80 then [n]
  else if n < 0x800 then [0xC0 + n / 64, 0x80 + n % 64]
  else if n < 0x10000 then [0xE0 + n / 4096, 0x80 + n / 64 % 64, 0x80 + n % 64]
  else [0xF0 + n / 262144, 0x80 + n / 4096 % 64, 0x80 + n / 64 % 64, 0x80 + n % 64]

def utf8 (s : Text) : List Nat := s.flatMap utf8Char

/-- Whether a byte continues a character. -/
def isTail (b : Nat) : Bool := 0x80 ≤ b && b < 0xC0

/-- The character of a code point that was spread over bytes; a code point that a shorter form would have held, a
surrogate or one above the last is refused. -/
def charFrom? (least n : Nat) : Option Char :=
  if h : least ≤ n ∧ n.isValidChar then some (Char.ofNatAux n h.2) else none

/-- The text whose UTF-8 form the bytes are. -/
def ofUtf8? : List Nat → Option Text
  | [] => some []
  | a :: rest =>
    if a < 0x80 then do
      let c ← charFrom? 0 a
      return c :: (← ofUtf8? rest)
    else if a < 0xC0 then none
    else if a < 0xE0 then
      match rest with
      | b :: more =>
        if isTail b then do
          let c ← charFrom? 0x80 ((a - 0xC0) * 64 + (b - 0x80))
          return c :: (← ofUtf8? more)
        else none
      | _ => none
    else if a < 0xF0 then
      match rest with
      | b :: c :: more =>
        if isTail b && isTail c then do
          let d ← charFrom? 0x800 ((a - 0xE0) * 4096 + (b - 0x80) * 64 + (c - 0x80))
          return d :: (← ofUtf8? more)
        else none
      | _ => none
    else if a < 0xF8 then
      match rest with
      | b :: c :: d :: more =>
        if isTail b && isTail c && isTail d then do
          let e ← charFrom? 0x10000 ((a - 0xF0) * 262144 + (b - 0x80) * 4096 + (c - 0x80) * 64 + (d - 0x80))
          return e :: (← ofUtf8? more)
        else none
      | _ => none
    else none

end Text
end ImportDispatch

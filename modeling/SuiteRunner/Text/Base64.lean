/-!
  SuiteRunner.Text.Base64
  ────────────────────────────────
  **BYTES AS TEXT, SIX BITS TO A CHARACTER.**

  Three bytes become four characters of the standard alphabet; the last one or two bytes are filled
  up with equals signs.  Reading accepts exactly what writing produces: the filling must be there,
  and the bits that no byte uses must be zero.
-/

namespace SuiteRunner.Base64

/-- The character for six bits. -/
def charOf (n : Nat) : Char :=
  if n < 26 then Char.ofNat ('A'.toNat + n)
  else if n < 52 then Char.ofNat ('a'.toNat + (n - 26))
  else if n < 62 then Char.ofNat ('0'.toNat + (n - 52))
  else if n = 62 then '+'
  else '/'

/-- The six bits of a character. -/
def valueOf? (c : Char) : Option Nat :=
  if 'A' ≤ c ∧ c ≤ 'Z' then some (c.toNat - 'A'.toNat)
  else if 'a' ≤ c ∧ c ≤ 'z' then some (c.toNat - 'a'.toNat + 26)
  else if '0' ≤ c ∧ c ≤ '9' then some (c.toNat - '0'.toNat + 52)
  else if c = '+' then some 62
  else if c = '/' then some 63
  else none

/-- Bytes as characters. -/
def encodeBytes : List UInt8 → List Char
  | a :: b :: c :: rest =>
    let n := a.toNat * 65536 + b.toNat * 256 + c.toNat
    charOf (n / 262144) :: charOf (n / 4096 % 64) :: charOf (n / 64 % 64) :: charOf (n % 64)
      :: encodeBytes rest
  | [a, b] =>
    let n := a.toNat * 1024 + b.toNat * 4
    [charOf (n / 4096), charOf (n / 64 % 64), charOf (n % 64), '=']
  | [a] =>
    let n := a.toNat * 16
    [charOf (n / 64), charOf (n % 64), '=', '=']
  | [] => []

/-- **The text for bytes.** -/
def encode (bytes : List UInt8) : String := String.ofList (encodeBytes bytes)

/-- The byte for the low eight bits of a number. -/
def byte (n : Nat) : UInt8 := UInt8.ofNat n

/-- Characters as bytes. -/
def decodeChars? : List Char → Option (List UInt8)
  | [] => some []
  | [a, b, '=', '='] => do
    let n := 64 * (← valueOf? a) + (← valueOf? b)
    if n % 16 = 0 then some [byte (n / 16)] else none
  | [a, b, c, '='] => do
    let n := 4096 * (← valueOf? a) + 64 * (← valueOf? b) + (← valueOf? c)
    if n % 4 = 0 then some [byte (n / 1024), byte (n / 4)] else none
  | a :: b :: c :: d :: rest => do
    let n := 262144 * (← valueOf? a) + 4096 * (← valueOf? b) + 64 * (← valueOf? c) + (← valueOf? d)
    let bytes ← decodeChars? rest
    return byte (n / 65536) :: byte (n / 256) :: byte n :: bytes
  | _ => none

/-- **The bytes of a text.** -/
def decode? (s : String) : Option (List UInt8) := decodeChars? s.toList

end SuiteRunner.Base64

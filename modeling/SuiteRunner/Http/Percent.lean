import SuiteRunner.Json.Render
import SuiteRunner.Number.Reading
import SuiteRunner.Text.Utf8

/-!
  SuiteRunner.Http.Percent
  ────────────────────────────────
  **BYTES WRITTEN AS PERCENT SIGN AND TWO DIGITS.**

  Each part of an address has characters of its own that stand for something and have to be
  escaped.  Control characters and everything outside ASCII are escaped in every part; a percent
  sign is not, so an address that is escaped already stays as it is.
-/

namespace SuiteRunner.Percent

/-- The escape of a byte. -/
def escape (b : UInt8) : List Char :=
  ['%', (Json.hexDigit (b.toNat / 16)).toUpper, (Json.hexDigit (b.toNat % 16)).toUpper]

/-- Whether a character is escaped in every part of an address. -/
def isForeign (c : Char) : Bool := c.toNat < 0x20 || 0x7f ≤ c.toNat

/-- The characters that are escaped in a path. -/
def inPath : List Char := " \"<>`#?\x7b\x7d".toList

/-- The characters that are escaped in a query. -/
def inQuery : List Char := " \"#<>'".toList

/-- The characters that are escaped in a user's name and password. -/
def inUser : List Char := inPath ++ "/:;=@[\\]^|".toList

/-- **A text with some characters escaped.** -/
def encode (special : List Char) (cs : List Char) : List Char :=
  cs.flatMap fun c =>
    if isForeign c || special.contains c then
      (Utf8.encode (String.singleton c)).flatMap escape
    else [c]

/-- **The bytes of a text with escapes;** a percent sign without two digits stands for itself. -/
def decode : List Char → List UInt8
  | [] => []
  | '%' :: a :: b :: rest =>
    match hexDigitOf? a, hexDigitOf? b with
    | some x, some y => UInt8.ofNat (16 * x + y) :: decode rest
    | _, _ => '%'.toUInt8 :: decode (a :: b :: rest)
  | c :: rest => Utf8.encode (String.singleton c) ++ decode rest

end SuiteRunner.Percent

import SuiteRunner.Http.Header
import SuiteRunner.Text.Split
import SuiteRunner.Text.Utf8

/-!
  SuiteRunner.Http.Charset
  ────────────────────────────────
  **THE TEXT OF A BODY.**

  A mark at the start of a body tells how its bytes are text; without one the content type may
  tell.  Western texts have one byte for each character; all labels that are not known mean UTF-8.
  No body is refused: what cannot be read becomes the replacement character.
-/

namespace SuiteRunner.Http

/-- The ways in which bytes are text. -/
inductive Charset where
  | utf8
  | western
  | utf16 (bigEndian : Bool)
  deriving DecidableEq, Repr, Inhabited

namespace Charset

/-! ## §1. Labels. -/

/-- The labels of charsets. -/
def labels : List (String × Charset) :=
  ["ansi_x3.4-1968", "ascii", "cp1252", "cp819", "csisolatin1", "ibm819", "iso-8859-1",
    "iso-ir-100", "iso8859-1", "iso88591", "iso_8859-1", "iso_8859-1:1987", "l1", "latin1",
    "us-ascii", "windows-1252", "x-cp1252"].map (·, .western)
  ++ ["csunicode", "iso-10646-ucs-2", "ucs-2", "unicode", "unicodefeff", "utf-16",
    "utf-16le"].map (·, .utf16 false)
  ++ ["unicodefffe", "utf-16be"].map (·, .utf16 true)

/-- The charset of a label. -/
def ofLabel (label : String) : Charset :=
  (labels.lookup (LetterCase.asciiLower (bareValue label))).getD .utf8

/-- A quoted value and what follows it; a backslash takes the next character as it is. -/
def quoted? : List Char → Option (List Char × List Char)
  | [] => none
  | '"' :: rest => some ([], rest)
  | '\\' :: c :: rest => (quoted? rest).map fun (v, rest) => (c :: v, rest)
  | c :: rest => (quoted? rest).map fun (v, rest) => (c :: v, rest)

/-- A parameter of a content type, and what follows it. -/
def parameter? (cs : List Char) : Option ((String × String) × List Char) := do
  let cs := cs.dropWhile (· == ' ')
  let name := cs.takeWhile isTokenChar
  let '=' :: rest := cs.drop name.length | none
  if name.isEmpty then none
  else
    let name := LetterCase.asciiLower (String.ofList name)
    match rest with
    | '"' :: rest =>
      let (value, rest) ← quoted? rest
      return ((name, String.ofList value), rest)
    | rest =>
      let value := rest.takeWhile isTokenChar
      return ((name, String.ofList value), rest.drop value.length)

/-- The parameters of a content type, after its name. -/
def parameters? : Nat → List Char → Option (List (String × String))
  | 0, _ => none
  | fuel + 1, cs =>
    match cs.dropWhile (· == ' ') with
    | [] => some []
    | ';' :: rest =>
      if (rest.dropWhile (· == ' ')).isEmpty then some []
      else do
        let (p, rest) ← parameter? rest
        return p :: (← parameters? fuel rest)
    | _ => none

/-- The charset that a content type names. -/
def named? (contentType : String) : Option String := do
  let cs := contentType.toList
  let group := cs.takeWhile isTokenChar
  let '/' :: rest := cs.drop group.length | none
  let member := rest.takeWhile isTokenChar
  if group.isEmpty || member.isEmpty then none
  else
    let found ← parameters? (cs.length + 1) (rest.drop member.length)
    found.lookup "charset"

/-! ## §2. Texts. -/

/-- The characters of the bytes from 128 to 159 in Western texts. -/
def westernCodes : List Nat := [
  0x20ac, 0x81, 0x201a, 0x0192, 0x201e, 0x2026, 0x2020, 0x2021, 0x02c6, 0x2030, 0x0160, 0x2039,
  0x0152, 0x8d, 0x017d, 0x8f, 0x90, 0x2018, 0x2019, 0x201c, 0x201d, 0x2022, 0x2013, 0x2014,
  0x02dc, 0x2122, 0x0161, 0x203a, 0x0153, 0x9d, 0x017e, 0x0178]

/-- The character of a byte in Western texts. -/
def westernChar (b : UInt8) : Char :=
  Char.ofNat (if b.toNat < 0x80 then b.toNat else westernCodes.getD (b.toNat - 0x80) b.toNat)

/-- Bytes in pairs as units of 16 bits; a single byte at the end is no unit. -/
def units (bigEndian : Bool) : List UInt8 → List (Option Nat)
  | [] => []
  | [_] => [none]
  | a :: b :: rest =>
    some (if bigEndian then 256 * a.toNat + b.toNat else 256 * b.toNat + a.toNat)
      :: units bigEndian rest

/-- The characters of units; a pair of surrogates is one character. -/
def unitChars : List (Option Nat) → List Char
  | [] => []
  | none :: rest => Utf8.replacement :: unitChars rest
  | some n :: rest =>
    if n < 0xd800 ∨ 0xdfff < n then Char.ofNat n :: unitChars rest
    else if n < 0xdc00 then
      match rest with
      | some m :: more =>
        if 0xdc00 ≤ m ∧ m ≤ 0xdfff then
          Char.ofNat (0x10000 + (n - 0xd800) * 0x400 + (m - 0xdc00)) :: unitChars more
        else Utf8.replacement :: unitChars (some m :: more)
      | rest => Utf8.replacement :: unitChars rest
    else Utf8.replacement :: unitChars rest

/-- The text of bytes in a charset. -/
def text : Charset → List UInt8 → String
  | .utf8, bytes => Utf8.repair bytes
  | .western, bytes => String.ofList (bytes.map westernChar)
  | .utf16 bigEndian, bytes => String.ofList (unitChars (units bigEndian bytes))

/-- The charset that a mark at the start of bytes tells, and the bytes after the mark. -/
def marked? : List UInt8 → Option (Charset × List UInt8)
  | 0xef :: 0xbb :: 0xbf :: rest => some (.utf8, rest)
  | 0xff :: 0xfe :: rest => some (.utf16 false, rest)
  | 0xfe :: 0xff :: rest => some (.utf16 true, rest)
  | _ => none

end Charset

/-- **The text of a response.** -/
def Response.text (r : Response) : String :=
  match Charset.marked? r.body with
  | some (c, rest) => c.text rest
  | none =>
    let contentType := (readableHeaders r.headers).get? "content-type"
    let charset := match contentType.bind Charset.named? with
      | some label => Charset.ofLabel label
      | none => .utf8
    charset.text r.body

end SuiteRunner.Http

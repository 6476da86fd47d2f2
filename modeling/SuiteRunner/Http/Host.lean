import SuiteRunner.Http.Percent
import SuiteRunner.Http.Punycode
import SuiteRunner.Text.LetterCase
import SuiteRunner.Text.Split

/-!
  SuiteRunner.Http.Host
  ────────────────────────────────
  **THE HOST OF AN ADDRESS.**

  A host is a name, a number of 32 bits written in up to four parts, or eight numbers of 16 bits in
  brackets.  Equal hosts have one text: names are in small letters and in ASCII, numbers have four
  decimal parts, and the longest run of zeros in brackets is left out.
-/

namespace SuiteRunner.Http

/-- A host. -/
inductive Host where
  | name (text : String)
  | four (address : Nat)
  | six (pieces : List Nat)
  deriving DecidableEq, Repr, Inhabited

namespace Host

/-! ## §1. Numbers in parts. -/

/-- The number of one part: hexadecimal, octal or decimal by how it begins. -/
def partValue? (cs : List Char) : Option Nat :=
  let (base, digits) : Nat × List Char := match cs with
    | '0' :: 'x' :: ds => (16, ds)
    | '0' :: 'X' :: ds => (16, ds)
    | '0' :: d :: ds => (8, d :: ds)
    | ds => (10, ds)
  if cs.isEmpty then none
  else digits.foldlM (fun n c => (hexDigitOf? c).bind fun d =>
    if d < base then some (base * n + d) else none) 0

/-- The parts of a name between dots, one dot at the end left out. -/
def dotted (cs : List Char) : List (List Char) :=
  match (Text.splitChars ['.'] cs).reverse with
  | [] :: p :: rest => (p :: rest).reverse
  | ps => ps.reverse

/-- Whether a name ends in a number, so that all of it has to be one. -/
def endsInNumber (cs : List Char) : Bool :=
  match (dotted cs).getLast? with
  | none => false
  | some p =>
    (!p.isEmpty && p.all isDigit)
      || (("0x".toList.isPrefixOf p || "0X".toList.isPrefixOf p) && (partValue? p).isSome)

/-- The number of a list of parts: every part but the last is one byte. -/
def numberOfParts? : Nat → List Nat → Option Nat
  | _, [] => none
  | room, [last] => if last < Nat.pow 256 room then some last else none
  | 0, _ => none
  | room + 1, p :: rest =>
    if p < 256 then (numberOfParts? room rest).map (p * Nat.pow 256 room + ·) else none

/-- The number that a name of parts stands for. -/
def four? (cs : List Char) : Option Nat := ((dotted cs).mapM partValue?).bind (numberOfParts? 4)

/-! ## §2. Eight numbers. -/

/-- One number of 16 bits: up to four hexadecimal digits. -/
def piece? (cs : List Char) : Option Nat :=
  if cs.isEmpty || cs.length > 4 then none
  else (cs.mapM hexDigitOf?).map fun ds => ds.foldl (fun n d => 16 * n + d) 0

/-- One byte in decimal, without a zero in front. -/
def byte? (cs : List Char) : Option Nat :=
  if cs.isEmpty || !cs.all isDigit || (cs.length > 1 && cs.head? == some '0') then none
  else if natOfDigits cs < 256 then some (natOfDigits cs) else none

/-- Two numbers of 16 bits, written as four bytes. -/
def fourBytes? (cs : List Char) : Option (List Nat) := do
  let [a, b, c, d] ← (Text.splitChars ['.'] cs).mapM byte? | none
  return [256 * a + b, 256 * c + d]

/-- Numbers between colons; the last may be written as four bytes. -/
def pieces? : List (List Char) → Option (List Nat)
  | [] => some []
  | [p] => ((piece? p).map fun n => [n]).orElse fun _ => fourBytes? p
  | p :: rest => do return (← piece? p) :: (← pieces? rest)

/-- Numbers of a text that may be empty. -/
def group? (cs : List Char) : Option (List Nat) :=
  if cs.isEmpty then some [] else pieces? (Text.splitChars [':'] cs)

/-- The eight numbers of a text; two colons stand for the zeros that are missing. -/
def six? (cs : List Char) : Option (List Nat) :=
  match Text.afterFirst? "::".toList cs with
  | none => (group? cs).filter fun ps => ps.length = 8
  | some (front, back) => do
    let a ← group? front
    let b ← group? back
    if front.contains '.' || a.length + b.length > 7 then none
    else return a ++ List.replicate (8 - a.length - b.length) 0 ++ b

/-! ## §3. Names. -/

/-- The characters that stand for a dot between labels. -/
def dots : List Char := ['.', '\u3002', '\uff0e', '\uff61']

/-- The characters that no name may have. -/
def forbidden : List Char := " #/:<>?@[\\]^|%".toList

/-- **A name in small letters and in ASCII;** none for a name that cannot be one. -/
def name? (cs : List Char) : Option (List Char) :=
  let text := LetterCase.toLower (Utf8.repair (Percent.decode cs))
  let labels := Text.splitChars ['.'] (text.toList.map fun c => if dots.contains c then '.' else c)
  let plain := ['.'].intercalate (labels.map Punycode.label)
  if plain.isEmpty || plain.any (fun c => Percent.isForeign c || forbidden.contains c) then none
  else some plain

/-! ## §4. Hosts. -/

/-- **The host that a text names.** -/
def ofChars? (cs : List Char) : Option Host :=
  match cs with
  | '[' :: rest =>
    if rest.getLast? == some ']' then (six? rest.dropLast).map .six else none
  | cs => do
    let n ← name? cs
    if endsInNumber n then return .four (← four? n) else return .name (String.ofList n)

/-- How many zeros a list begins with. -/
def zeros (ps : List Nat) : Nat := (ps.takeWhile (· == 0)).length

/-- Where the longest run of zeros begins, and how long it is; the first of equal ones. -/
def longestZeros : Nat → List Nat → Nat × Nat
  | i, [] => (i, 0)
  | i, p :: rest =>
    let (j, n) := longestZeros (i + 1) rest
    if n ≤ zeros (p :: rest) then (i, zeros (p :: rest)) else (j, n)

/-- A number in hexadecimal digits. -/
def hexText (n : Nat) : String := String.ofList (Nat.toDigits 16 n)

/-- Numbers with colons between them. -/
def colons (ps : List Nat) : String := ":".intercalate (ps.map hexText)

/-- The text of a host. -/
def render : Host → String
  | .name text => text
  | .four a =>
    ".".intercalate ([a / 0x1000000, a / 0x10000 % 256, a / 0x100 % 256, a % 256].map toString)
  | .six ps =>
    let (i, n) := longestZeros 0 ps
    let inner := if 1 < n then colons (ps.take i) ++ "::" ++ colons (ps.drop (i + n)) else colons ps
    "[" ++ inner ++ "]"

end Host

end SuiteRunner.Http

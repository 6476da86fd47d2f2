import SuiteRunner.Number.Binary64

/-!
  SuiteRunner.Number.Reading
  ────────────────────────────────
  **NUMBERS WRITTEN AS TEXT.**

  `ofText?` reads a decimal literal with an optional sign, point and exponent, or one of the words
  for infinity and for no number, in any letter case.  `natOfText?` reads a bounded natural number.
  Nothing may surround either.
-/

namespace SuiteRunner

/-- The value of an ASCII digit. -/
def digitOf? (c : Char) : Option Nat :=
  if '0' ≤ c ∧ c ≤ '9' then some (c.toNat - '0'.toNat) else none

/-- Whether a character is an ASCII digit. -/
def isDigit (c : Char) : Bool := (digitOf? c).isSome

/-- The value of a hexadecimal digit of either case. -/
def hexDigitOf? (c : Char) : Option Nat :=
  if '0' ≤ c ∧ c ≤ '9' then some (c.toNat - '0'.toNat)
  else if 'a' ≤ c ∧ c ≤ 'f' then some (c.toNat - 'a'.toNat + 10)
  else if 'A' ≤ c ∧ c ≤ 'F' then some (c.toNat - 'A'.toNat + 10)
  else none

/-- The number that a run of ASCII digits stands for; other characters count as zero. -/
def natOfDigits (cs : List Char) : Nat :=
  cs.foldl (fun n c => 10 * n + (digitOf? c).getD 0) 0

/-- A natural number up to `top`, with an optional plus sign and at least one digit. -/
def natOfText? (top : Nat) (text : String) : Option Nat :=
  let cs := match text.toList with
    | '+' :: rest => rest
    | cs => cs
  if cs.isEmpty || !cs.all isDigit then none
  else
    let n := natOfDigits cs
    if n ≤ top then some n else none

namespace Binary64

/-- The exponent part of a literal: nothing, or `e`, an optional sign and digits. -/
def exponentOfChars? : List Char → Option Int
  | [] => some 0
  | c :: rest =>
    if c = 'e' ∨ c = 'E' then
      let (minus, ds) := match rest with
        | '-' :: ds => (true, ds)
        | '+' :: ds => (false, ds)
        | ds => (false, ds)
      if ds.isEmpty || !ds.all isDigit then none
      else
        let n : Int := min (natOfDigits ds) 1000000
        some (if minus then -n else n)
    else none

/-- An unsigned decimal literal. -/
def literalOfChars? (neg : Bool) (cs : List Char) : Option Binary64 :=
  let whole := cs.takeWhile isDigit
  let rest := cs.dropWhile isDigit
  let (fraction, rest) := match rest with
    | '.' :: more => (more.takeWhile isDigit, more.dropWhile isDigit)
    | rest => ([], rest)
  if whole.isEmpty && fraction.isEmpty then none
  else
    (exponentOfChars? rest).map fun e =>
      ofScientific neg (natOfDigits (whole ++ fraction)) (e - fraction.length)

/-- The words that stand for special numbers. -/
def wordOfChars? (neg : Bool) (cs : List Char) : Option Binary64 :=
  let word := String.ofList (cs.map Char.toLower)
  if word = "inf" ∨ word = "infinity" then some (.inf neg)
  else if word = "nan" then some .nan
  else none

/-- The number a text stands for. -/
def ofText? (text : String) : Option Binary64 :=
  let (neg, cs) := match text.toList with
    | '-' :: rest => (true, rest)
    | '+' :: rest => (false, rest)
    | cs => (false, cs)
  (wordOfChars? neg cs).orElse (fun _ => literalOfChars? neg cs)

end Binary64

end SuiteRunner

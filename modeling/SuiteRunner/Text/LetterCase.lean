import SuiteRunner.Text.Category
import SuiteRunner.Text.LetterCase.Table

/-!
  SuiteRunner.Text.LetterCase
  ────────────────────────────────
  **LOWER CASE AND CASE FOLDING.**

  `toLower` maps a whole text: a capital dotted I becomes two characters, and a capital sigma
  at the end of a word becomes the final sigma.  `fold` maps one character to the common form of
  all characters that differ from it in case only.
-/

namespace SuiteRunner.LetterCase

/-- The lower-case letters of one character, out of context. -/
def lowerOf (c : Char) : List Char :=
  if c.toNat < 128 then [c.toLower]
  else if c.toNat = 0x130 then ['i', Char.ofNat 0x307]
  else match Run.image? lowerRuns c.toNat with
    | some n => [Char.ofNat n]
    | none => [c]

/-- Whether the first character that is not case-ignorable has a case. -/
def casedAhead : List Char → Bool
  | [] => false
  | c :: rest =>
    if Category.caseIgnorable.has c.toNat then casedAhead rest else Category.cased.has c.toNat

/-- Lower case of a text whose part before, backwards, is `before`. -/
def lowerChars : List Char → List Char → List Char
  | _, [] => []
  | before, c :: rest =>
    let image :=
      if c.toNat = 0x3a3 then
        if casedAhead before && !casedAhead rest then [Char.ofNat 0x3c2] else [Char.ofNat 0x3c3]
      else lowerOf c
    image ++ lowerChars (c :: before) rest

/-- The text in lower case. -/
def toLower (s : String) : String := String.ofList (lowerChars [] s.toList)

/-- The code point that stands for all case variants of a code point. -/
def foldCode (n : Nat) : Nat :=
  if foldKeptFirst ≤ n && n ≤ foldKeptLast then n
  else ((Run.image? foldRuns n).orElse fun _ => Run.image? lowerRuns n).getD n

/-- The character that stands for all case variants of a character. -/
def fold (c : Char) : Char :=
  if c.toNat < 128 then c.toLower else Char.ofNat (foldCode c.toNat)

/-- The text with its ASCII capitals in lower case. -/
def asciiLower (s : String) : String := s.map Char.toLower

/-- The text with its ASCII small letters in upper case. -/
def asciiUpper (s : String) : String := s.map Char.toUpper

end SuiteRunner.LetterCase

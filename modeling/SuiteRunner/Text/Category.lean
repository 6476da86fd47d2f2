import SuiteRunner.Text.Category.Table

/-!
  SuiteRunner.Text.Category
  ────────────────────────────────
  **CLASSES OF CHARACTERS.**

  Ranges of code points are read from the tables once; the classes that patterns and letter case
  need (letters, digits, word characters, cased and case-ignorable characters) are unions of
  general categories with a few extra ranges.
-/

namespace SuiteRunner.Category

/-- Inclusive ranges of code points. -/
abbrev Ranges := List (Nat × Nat)

/-- The value of a hexadecimal digit in lower case; any other character counts as zero. -/
def hexValue (c : Char) : Nat :=
  if '0' ≤ c ∧ c ≤ '9' then c.toNat - '0'.toNat
  else if 'a' ≤ c ∧ c ≤ 'f' then c.toNat - 'a'.toNat + 10
  else 0

/-- The number a run of hexadecimal digits stands for. -/
def hexNumber (cs : List Char) : Nat := cs.foldl (fun n c => 16 * n + hexValue c) 0

/-- A range as written in the tables. -/
def rangeOfChars (cs : List Char) : Nat × Nat :=
  let first := cs.takeWhile (· ≠ '-')
  match cs.dropWhile (· ≠ '-') with
  | [] => (hexNumber first, hexNumber first)
  | _ :: last => (hexNumber first, hexNumber last)

/-- The words of a line, between single spaces. -/
def wordsOf : List Char → List Char → List (List Char)
  | word, [] => if word.isEmpty then [] else [word.reverse]
  | word, ' ' :: rest =>
    if word.isEmpty then wordsOf [] rest else word.reverse :: wordsOf [] rest
  | word, c :: rest => wordsOf (c :: word) rest

/-- The ranges of a table. -/
def rangesOf (lines : List String) : Ranges :=
  lines.flatMap fun line => (wordsOf [] line.toList).map rangeOfChars

/-- Whether a code point lies in one of the ranges. -/
def Ranges.has (rs : Ranges) (n : Nat) : Bool := rs.any fun (a, b) => a ≤ n && n ≤ b

/-! ## §1. The general categories by name. -/

/-- Letters in upper case. -/
def uppercaseLetter : Ranges := rangesOf Table.uppercaseLetter

/-- Letters in lower case. -/
def lowercaseLetter : Ranges := rangesOf Table.lowercaseLetter

/-- Digraphs of which the first letter alone is in upper case. -/
def titlecaseLetter : Ranges := rangesOf Table.titlecaseLetter

/-- Letters that modify the one before them. -/
def modifierLetter : Ranges := rangesOf Table.modifierLetter

/-- Letters without a case. -/
def otherLetter : Ranges := rangesOf Table.otherLetter

/-- Marks that take no room of their own. -/
def nonspacingMark : Ranges := rangesOf Table.nonspacingMark

/-- Marks that take room of their own. -/
def spacingMark : Ranges := rangesOf Table.spacingMark

/-- Marks around a character. -/
def enclosingMark : Ranges := rangesOf Table.enclosingMark

/-- Digits of decimal systems. -/
def decimalNumber : Ranges := rangesOf Table.decimalNumber

/-- Numbers written as letters. -/
def letterNumber : Ranges := rangesOf Table.letterNumber

/-- Other numbers, such as fractions. -/
def otherNumber : Ranges := rangesOf Table.otherNumber

/-- Characters that join words. -/
def connectorPunctuation : Ranges := rangesOf Table.connectorPunctuation

/-- Dashes. -/
def dashPunctuation : Ranges := rangesOf Table.dashPunctuation

/-- Opening brackets. -/
def openPunctuation : Ranges := rangesOf Table.openPunctuation

/-- Closing brackets. -/
def closePunctuation : Ranges := rangesOf Table.closePunctuation

/-- Opening quotation marks. -/
def initialPunctuation : Ranges := rangesOf Table.initialPunctuation

/-- Closing quotation marks. -/
def finalPunctuation : Ranges := rangesOf Table.finalPunctuation

/-- Other punctuation. -/
def otherPunctuation : Ranges := rangesOf Table.otherPunctuation

/-- Symbols of mathematics. -/
def mathSymbol : Ranges := rangesOf Table.mathSymbol

/-- Symbols of currencies. -/
def currencySymbol : Ranges := rangesOf Table.currencySymbol

/-- Symbols that modify the character before them. -/
def modifierSymbol : Ranges := rangesOf Table.modifierSymbol

/-- Other symbols. -/
def otherSymbol : Ranges := rangesOf Table.otherSymbol

/-- Spaces. -/
def spaceSeparator : Ranges := rangesOf Table.spaceSeparator

/-- What separates lines. -/
def lineSeparator : Ranges := rangesOf Table.lineSeparator

/-- What separates paragraphs. -/
def paragraphSeparator : Ranges := rangesOf Table.paragraphSeparator

/-- Control characters. -/
def control : Ranges := rangesOf Table.control

/-- Characters that change how others are shown. -/
def format : Ranges := rangesOf Table.format

/-- Characters left to private agreement. -/
def privateUse : Ranges := rangesOf Table.privateUse

/-- Letters. -/
def letter : Ranges :=
  uppercaseLetter ++ lowercaseLetter ++ titlecaseLetter ++ modifierLetter ++ otherLetter

/-- Marks. -/
def mark : Ranges := nonspacingMark ++ spacingMark ++ enclosingMark

/-- Numbers. -/
def number : Ranges := decimalNumber ++ letterNumber ++ otherNumber

/-- Punctuation. -/
def punctuation : Ranges :=
  connectorPunctuation ++ dashPunctuation ++ openPunctuation ++ closePunctuation
    ++ initialPunctuation ++ finalPunctuation ++ otherPunctuation

/-- Symbols. -/
def symbol : Ranges := mathSymbol ++ currencySymbol ++ modifierSymbol ++ otherSymbol

/-- Separators. -/
def separator : Ranges := spaceSeparator ++ lineSeparator ++ paragraphSeparator

/-- All assigned code points. -/
def assigned : Ranges :=
  letter ++ mark ++ number ++ punctuation ++ symbol ++ separator ++ control ++ format
    ++ privateUse

/-! ## §2. Derived classes. -/

/-- Symbols that count as letters: circled and squared Latin letters. -/
def letterlikeSymbol : Ranges :=
  [(0x24b6, 0x24e9), (0x1f130, 0x1f149), (0x1f150, 0x1f169), (0x1f170, 0x1f189)]

/-- Letters in the wide sense. -/
def alphabetic : Ranges := letter ++ letterNumber ++ letterlikeSymbol ++ mark

/-- Word characters: letters, marks, decimal digits, connectors and the two joiners. -/
def word : Ranges := alphabetic ++ decimalNumber ++ connectorPunctuation ++ [(0x200c, 0x200d)]

/-- Letters that have a case. -/
def cased : Ranges :=
  uppercaseLetter ++ lowercaseLetter ++ titlecaseLetter ++ [(0x2160, 0x217f), (0x24b6, 0x24e9)]

/-- Characters that do not break a word for letter case. -/
def caseIgnorable : Ranges :=
  nonspacingMark ++ enclosingMark ++ format ++ modifierLetter ++ modifierSymbol
    ++ [(0x27, 0x27), (0x2e, 0x2e), (0x3a, 0x3a), (0xb7, 0xb7), (0x387, 0x387), (0x2018, 0x2019),
        (0x2024, 0x2024), (0x2027, 0x2027)]

/-- The digits of all scripts, with the ASCII ones decided first. -/
def isDecimal (c : Char) : Bool :=
  if c.toNat < 128 then '0' ≤ c && c ≤ '9' else decimalNumber.has c.toNat

/-- Word characters, with the ASCII ones decided first. -/
def isWord (c : Char) : Bool :=
  if c.toNat < 128 then c.isAlphanum || c == '_' else word.has c.toNat

end SuiteRunner.Category

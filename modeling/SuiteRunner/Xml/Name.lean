/-!
  SuiteRunner.Xml.Name
  ────────────────────────────────
  **NAMES IN MARKUP.**

  A name is a local part, perhaps with a prefix and a colon before it.  Both parts begin with a
  letter or a low line and go on with letters, digits, points, hyphens and combining characters;
  the classes are those of XML 1.0, fifth edition, without the colon.
-/

namespace SuiteRunner.Xml

/-- Characters that begin a part of a name. -/
def isNameStart (c : Char) : Bool :=
  let n := c.toNat
  (0x41 ≤ n && n ≤ 0x5a) || n == 0x5f || (0x61 ≤ n && n ≤ 0x7a)
    || (0xc0 ≤ n && n ≤ 0xd6) || (0xd8 ≤ n && n ≤ 0xf6) || (0xf8 ≤ n && n ≤ 0x2ff)
    || (0x370 ≤ n && n ≤ 0x37d) || (0x37f ≤ n && n ≤ 0x1fff) || (0x200c ≤ n && n ≤ 0x200d)
    || (0x2070 ≤ n && n ≤ 0x218f) || (0x2c00 ≤ n && n ≤ 0x2fef) || (0x3001 ≤ n && n ≤ 0xd7ff)
    || (0xf900 ≤ n && n ≤ 0xfdcf) || (0xfdf0 ≤ n && n ≤ 0xfffd) || (0x10000 ≤ n && n ≤ 0xeffff)

/-- Characters that continue a part of a name. -/
def isNameChar (c : Char) : Bool :=
  let n := c.toNat
  isNameStart c || n == 0x2d || n == 0x2e || (0x30 ≤ n && n ≤ 0x39) || n == 0xb7
    || (0x300 ≤ n && n ≤ 0x36f) || (0x203f ≤ n && n ≤ 0x2040)

/-- Blanks of markup. -/
def isSpace (c : Char) : Bool := c == ' ' || c == '\t' || c == '\n' || c == '\r'

/-- A text without the blanks at its start. -/
def skipSpace (cs : List Char) : List Char := cs.dropWhile isSpace

/-- A name as it is written. -/
structure Name where
  space? : Option String
  localPart : String
  deriving DecidableEq, Repr, Inhabited

/-- The text of a name. -/
def Name.text (n : Name) : String :=
  match n.space? with
  | none => n.localPart
  | some p => p ++ ":" ++ n.localPart

/-- A part of a name at the start of a text, and what follows it. -/
def namePart? : List Char → Option (String × List Char)
  | [] => none
  | c :: rest =>
    if isNameStart c then
      some (String.ofList (c :: rest.takeWhile isNameChar), rest.dropWhile isNameChar)
    else none

/-- The name at the start of a text, and what follows it. -/
def name? (cs : List Char) : Option (Name × List Char) :=
  match namePart? cs with
  | none => none
  | some (first, ':' :: rest) =>
    match namePart? rest with
    | some (second, rest) => some (⟨some first, second⟩, rest)
    | none => none
  | some (first, rest) => some (⟨none, first⟩, rest)

end SuiteRunner.Xml

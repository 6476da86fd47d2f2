import SuiteRunner.Json.Value
import SuiteRunner.Number.Shortest

/-!
  SuiteRunner.Json.Render
  ────────────────────────────────
  **WRITING DOCUMENTS.**

  `compact` writes a document without blanks, `pretty` with one member or item a line and two
  spaces of indentation a level.  In strings the quote, the backslash and the control characters
  below U+0020 are escaped and nothing else.
-/

namespace SuiteRunner.Json

/-! ## §1. Scalars. -/

/-- A hexadecimal digit in lower case. -/
def hexDigit (n : Nat) : Char := (Nat.toDigits 16 (n % 16)).headD '0'

/-- A character as it stands inside quotes. -/
def escapeChar (c : Char) : List Char :=
  if c = '"' then ['\\', '"']
  else if c = '\\' then ['\\', '\\']
  else if c = '\n' then ['\\', 'n']
  else if c = '\r' then ['\\', 'r']
  else if c = '\t' then ['\\', 't']
  else if c.toNat = 8 then ['\\', 'b']
  else if c.toNat = 12 then ['\\', 'f']
  else if c.toNat < 32 then
    ['\\', 'u', '0', '0', hexDigit (c.toNat / 16), hexDigit (c.toNat % 16)]
  else [c]

/-- A text in quotes, as characters. -/
def quoteChars (cs : List Char) : List Char := '"' :: (cs.flatMap escapeChar ++ ['"'])

/-- A text in quotes. -/
def quote (s : String) : String := String.ofList (quoteChars s.toList)

/-- The text of a number. -/
def Number.text : Number → String
  | .int n => toString n
  | .float x => x.documentText

/-! ## §2. Without blanks. -/

mutual
/-- The text of a document without blanks. -/
def compact : Json → String
  | .null => "null"
  | .bool b => if b then "true" else "false"
  | .num n => n.text
  | .str s => quote s
  | .arr xs => "[" ++ compactItems xs ++ "]"
  | .obj ms => "\x7b" ++ compactMembers ms ++ "\x7d"

/-- The items of an array with commas between them. -/
def compactItems : List Json → String
  | [] => ""
  | [x] => compact x
  | x :: rest => compact x ++ "," ++ compactItems rest

/-- The members of an object with commas between them. -/
def compactMembers : List (String × Json) → String
  | [] => ""
  | [(k, v)] => quote k ++ ":" ++ compact v
  | (k, v) :: rest => quote k ++ ":" ++ compact v ++ "," ++ compactMembers rest
end

/-! ## §3. With indentation. -/

/-- A new line at a depth. -/
def newline (depth : Nat) : String := "\n" ++ String.ofList (List.replicate (2 * depth) ' ')

mutual
/-- The text of a document at a depth of indentation. -/
def prettyAt (depth : Nat) : Json → String
  | .null => "null"
  | .bool b => if b then "true" else "false"
  | .num n => n.text
  | .str s => quote s
  | .arr [] => "[]"
  | .arr (x :: xs) => "[" ++ prettyItems (depth + 1) (x :: xs) ++ newline depth ++ "]"
  | .obj [] => "\x7b\x7d"
  | .obj (m :: ms) => "\x7b" ++ prettyMembers (depth + 1) (m :: ms) ++ newline depth ++ "\x7d"

/-- The items of an array, one a line. -/
def prettyItems (depth : Nat) : List Json → String
  | [] => ""
  | [x] => newline depth ++ prettyAt depth x
  | x :: rest => newline depth ++ prettyAt depth x ++ "," ++ prettyItems depth rest

/-- The members of an object, one a line. -/
def prettyMembers (depth : Nat) : List (String × Json) → String
  | [] => ""
  | [(k, v)] => newline depth ++ quote k ++ ": " ++ prettyAt depth v
  | (k, v) :: rest =>
    newline depth ++ quote k ++ ": " ++ prettyAt depth v ++ "," ++ prettyMembers depth rest
end

/-- The indented text of a document. -/
def pretty (v : Json) : String := prettyAt 0 v

end SuiteRunner.Json

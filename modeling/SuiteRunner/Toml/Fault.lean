/-!
  SuiteRunner.Toml.Fault
  ────────────────────────────────
  **WHAT IS WRONG IN A CONFIGURATION TEXT, AND WHERE.**

  A fault lies at a character of the text.  It is shown with the line it lies in and a mark under
  the place.
-/

namespace SuiteRunner.Toml

/-- A fault: how many characters are left of the text where it lies, and why it is one. -/
structure Fault where
  left : Nat
  reason : String
  deriving DecidableEq, Repr, Inhabited

namespace Fault

/-- The reason that something is invalid, where other things are expected. -/
def invalid (what : String) (expected : List String) : String :=
  let first := if what.isEmpty then [] else ["invalid " ++ what]
  let second := if expected.isEmpty then [] else ["expected " ++ ", ".intercalate expected]
  "\n".intercalate (first ++ second)

/-- A text between quotes as reasons have them. -/
def quoted (s : String) : String := "`" ++ s ++ "`"

/-- The reason that a key is taken. -/
def taken (key : String) (path : List String) : String :=
  "duplicate key " ++ quoted key ++ " in "
    ++ (if path.isEmpty then "document root" else "table " ++ quoted (".".intercalate path))

/-- A number of blanks. -/
def blanks (n : Nat) : String := String.ofList (List.replicate n ' ')

/-- The lines of a text. -/
def linesOf : List Char → List (List Char)
  | [] => [[]]
  | '\n' :: rest => [] :: linesOf rest
  | c :: rest =>
    match linesOf rest with
    | [] => [[c]]
    | l :: more => (c :: l) :: more

/-- How many characters stand after the last line end. -/
def column (cs : List Char) : Nat := (cs.reverse.takeWhile (· != '\n')).length

/-- The bytes of a list of characters. -/
def bytes (cs : List Char) : Nat := cs.foldl (fun n c => n + c.utf8Size) 0

/-- **The lines that show a fault of a text.** -/
def render (f : Fault) (text : String) : String :=
  let cs := text.toList
  let place := cs.length - f.left
  let last := min place (cs.length - 1)
  let before := cs.take last
  let line := before.count '\n'
  let col := column before + (place - last)
  let content := (linesOf cs)[line]?.getD []
  let number := toString (line + 1)
  let gutter := blanks (number.length + 1)
  let marks := max 1 (min (bytes ((cs.drop place).take 1)) (bytes content - col))
  "TOML parse error at line " ++ number ++ ", column " ++ toString (col + 1) ++ "\n"
    ++ gutter ++ "|\n" ++ number ++ " | " ++ String.ofList content ++ "\n"
    ++ gutter ++ "|" ++ blanks (col + 1) ++ String.ofList (List.replicate marks '^') ++ "\n"
    ++ f.reason ++ "\n"

end Fault

end SuiteRunner.Toml

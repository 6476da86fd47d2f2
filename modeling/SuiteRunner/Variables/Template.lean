import SuiteRunner.Text.Blank

/-!
  SuiteRunner.Variables.Template
  ────────────────────────────────
  **TEXT WITH PLACEHOLDERS.**

  A placeholder is two opening braces, a run of characters other than braces, and two closing
  braces.  Its name is the run without the blanks around it; of a run of blanks the name is the
  last one.  Placeholders are taken from the left and do not overlap; all other characters stand
  for themselves.
-/

namespace SuiteRunner.Template

/-- A piece of a template. -/
inductive Piece where
  | char (c : Char)
  | hole (name : String)
  deriving DecidableEq, Repr

/-- Whether a character is not a brace. -/
def notBrace (c : Char) : Bool := c != '\x7b' && c != '\x7d'

/-- The name of a placeholder with a run of characters. -/
def holeName (run : List Char) : List Char :=
  match Text.trimChars run with
  | [] => run.getLast?.toList
  | name => name

/-- The name and the length of the placeholder that stands at the start of a text. -/
def holeAt? (cs : List Char) : Option (String × Nat) :=
  match cs with
  | '\x7b' :: '\x7b' :: rest =>
    let run := rest.takeWhile notBrace
    match run, rest.dropWhile notBrace with
    | _ :: _, '\x7d' :: '\x7d' :: _ => some (String.ofList (holeName run), run.length + 4)
    | _, _ => none
  | _ => none

/-- The pieces of a text of which the first characters, already seen, are skipped. -/
def piecesFrom : Nat → List Char → List Piece
  | _, [] => []
  | skip + 1, _ :: rest => piecesFrom skip rest
  | 0, c :: rest =>
    match holeAt? (c :: rest) with
    | some (name, length) => .hole name :: piecesFrom (length - 1) rest
    | none => .char c :: piecesFrom 0 rest

/-- **The pieces of a template.** -/
def pieces (text : String) : List Piece := piecesFrom 0 text.toList

end SuiteRunner.Template

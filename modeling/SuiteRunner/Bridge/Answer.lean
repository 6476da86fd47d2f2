import SuiteRunner.Error
import SuiteRunner.Json.Decode

/-!
  SuiteRunner.Bridge.Answer
  ────────────────────────────────
  **LINES THAT A BRIDGE WRITES.**

  A line is an answer if it is an object with a number and a verdict; it may have a result or the
  text of an error.  All other lines say nothing.
-/

namespace SuiteRunner.Bridge

/-- An answer of a bridge. -/
structure Answer where
  id : Nat := 0
  ok : Bool := false
  result : Json := .null
  error : Option String := none
  deriving Inhabited

open Decode

/-- Read an answer. -/
def Answer.decode : Decoder Answer := record "struct BridgeResponse" [
  must "id" nat64 fun a r => { r with id := a },
  must "ok" boolean fun a r => { r with ok := a },
  may "result" json fun a r => { r with result := a },
  may "error" (optional text) fun a r => { r with error := a }] {}

/-- The answer in a line. -/
def Answer.ofLine? (line : String) : Option Answer :=
  match Decode.ofText Answer.decode line with
  | .ok a => some a
  | .error _ => none

/-- The answer in a line, if it is one to the request with a number. -/
def answerTo? (id : Nat) (line : String) : Option Answer :=
  (Answer.ofLine? line).filter fun a => a.id == id

/-- What comes of reading a line: the line, or why it cannot be read. -/
abbrev LineRead := Except Failure String

/-- **The first answer to a request among lines that are read,** and what is left to read after it.
There is none if the lines end before it; a line that cannot be read ends the search. -/
def firstAnswer (id : Nat) : List LineRead → Except Failure (Option Answer) × List LineRead
  | [] => (.ok none, [])
  | .error e :: rest => (.error e, rest)
  | .ok line :: rest =>
    match answerTo? id line with
    | some a => (.ok (some a), rest)
    | none => firstAnswer id rest

end SuiteRunner.Bridge

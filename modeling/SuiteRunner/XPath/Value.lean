import SuiteRunner.Number.Reading
import SuiteRunner.Number.Shortest
import SuiteRunner.Text.Blank
import SuiteRunner.Xml.Document

/-!
  SuiteRunner.XPath.Value
  ────────────────────────────────
  **VALUES OF EXPRESSIONS.**

  A value is a set of nodes, a text, a number or a truth value, and each can be taken for a text, a
  number or a truth value.  A set of nodes is the list of their places in document order, without
  repetition; taken for a text it is the text value of its first node.
-/

namespace SuiteRunner.XPath

open Xml (Document)

/-- A value. -/
inductive Value where
  | nodes (places : List Nat)
  | text (s : String)
  | number (x : Binary64)
  | truth (b : Bool)
  deriving DecidableEq, Repr, Inhabited

/-- The text of a number. -/
def numberText (x : Binary64) : String :=
  match x with
  | .inf neg => if neg then "-Infinity" else "Infinity"
  | x => x.plainText

/-- The number that a text stands for, blanks around it allowed. -/
def numberOfText (s : String) : Binary64 := (Binary64.ofText? (Text.trim s)).getD .nan

namespace Value

/-- A value as a text. -/
def toText (d : Document) : Value → String
  | .nodes [] => ""
  | .nodes (i :: _) => d.textValue i
  | .text s => s
  | .number x => numberText x
  | .truth b => if b then "true" else "false"

/-- A value as a number. -/
def toNumber (d : Document) : Value → Binary64
  | .number x => x
  | .truth b => .ofInt (if b then 1 else 0)
  | v => numberOfText (v.toText d)

/-- A value as a truth value. -/
def toTruth : Value → Bool
  | .nodes is => !is.isEmpty
  | .text s => !s.isEmpty
  | .number .nan => false
  | .number x => !x.isZero
  | .truth b => b

/-- Whether two values are equal: if one is a truth value both are taken for truth values, if one
is a number for numbers, else for texts; a set of nodes is equal to what one of its nodes is. -/
def equal (d : Document) (a b : Value) : Bool :=
  match a, b with
  | .truth _, _ => a.toTruth == b.toTruth
  | _, .truth _ => a.toTruth == b.toTruth
  | .nodes is, .nodes js => is.any fun i => js.any fun j => d.textValue i == d.textValue j
  | .nodes is, .number x => is.any fun i => (numberOfText (d.textValue i)).equal x
  | .number x, .nodes is => is.any fun i => (numberOfText (d.textValue i)).equal x
  | .nodes is, .text s => is.any fun i => d.textValue i == s
  | .text s, .nodes is => is.any fun i => d.textValue i == s
  | .number x, v => x.equal (v.toNumber d)
  | v, .number x => (v.toNumber d).equal x
  | .text s, .text t => s == t

/-- The text of a result; nothing for a set without nodes. -/
def result? (d : Document) : Value → Option String
  | .nodes is => is.head?.map d.textValue
  | .number x => some x.plainText
  | v => some (v.toText d)

end Value

end SuiteRunner.XPath

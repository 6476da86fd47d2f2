import SuiteRunner.Text.Split
import SuiteRunner.XPath.Expression
import SuiteRunner.XPath.Value

/-!
  SuiteRunner.XPath.Function
  ────────────────────────────────
  **THE FUNCTIONS OF EXPRESSIONS.**

  A function is found by its name and takes values.  It may look at the node, the position and the
  size of the set at which its call is evaluated.
-/

namespace SuiteRunner.XPath

open Xml (Document)

/-- Where an expression is evaluated. -/
structure Context where
  node : Nat
  position : Nat
  size : Nat
  deriving DecidableEq, Repr

/-- The words of a text. -/
def wordsOf (cs : List Char) : List (List Char) :=
  (cs.foldr (fun c (acc : List (List Char)) =>
    if Xml.isSpace c then [] :: acc
    else match acc with
      | w :: ws => (c :: w) :: ws
      | [] => [[c]]) [[]]).filter (!·.isEmpty)

/-- A text with its blanks reduced to single spaces between words. -/
def squeezed (s : String) : String := " ".intercalate ((wordsOf s.toList).map String.ofList)

/-- A text in which each character of one list becomes the character at the same place of another,
or goes. -/
def translated (s source target : String) : String :=
  String.ofList (s.toList.filterMap fun c =>
    match source.toList.idxOf? c with
    | none => some c
    | some i => target.toList[i]?)

/-- The characters of a text whose places, counted from one, are at least `start` and less than
`start + length`. -/
def slice (s : String) (start : Binary64) (length : Option Binary64) : String :=
  let first := start.roundHalfUp
  let inside (i : Nat) : Bool :=
    let p := Binary64.ofInt (i + 1)
    first.lessEq p && match length with
      | none => true
      | some l => p.less (first.add l.roundHalfUp)
  String.ofList ((s.toList.zipIdx.filter fun (_, i) => inside i).map Prod.fst)

/-- The name of a node, if its kind has names. -/
def nameOf? (d : Document) (i : Nat) : Option (Xml.Name × Option String) :=
  match d.kind i with
  | .element n u => some (n, u)
  | .attribute n u _ => some (n, u)
  | .instruction t _ => some (⟨none, t⟩, none)
  | _ => none

/-- A text about the name of the first node of an argument, or of the current node. -/
def aboutName (d : Document) (c : Context) (f : Xml.Name × Option String → String) :
    List Value → Except Fault Value
  | [] => .ok (.text (((nameOf? d c.node).map f).getD ""))
  | [.nodes is] => .ok (.text ((is.head?.bind (nameOf? d) |>.map f).getD ""))
  | [_] => .error .nodesExpected
  | _ => .error (.wrongArgumentCount "name")

/-- The nodes of a value. -/
def nodesOf : Value → Except Fault (List Nat)
  | .nodes is => .ok is
  | _ => .error .nodesExpected

/-- The text before the first place where another stands. -/
def textBefore (s part : String) : String :=
  match Text.afterFirst? part.toList s.toList with
  | some (before, _) => String.ofList before
  | none => ""

/-- The text after the first place where another stands. -/
def textAfter (s part : String) : String :=
  match Text.afterFirst? part.toList s.toList with
  | some (_, after) => String.ofList after
  | none => ""

/-- **The value of a call.** -/
def applyFunction (d : Document) (c : Context) (name : String) (args : List Value) :
    Except Fault Value :=
  let here : Value := .nodes [c.node]
  let txt (v : Value) : String := v.toText d
  let num (v : Value) : Binary64 := v.toNumber d
  match name, args with
  | "last", [] => .ok (.number (.ofInt c.size))
  | "position", [] => .ok (.number (.ofInt c.position))
  | "count", [v] => (nodesOf v).map fun is => .number (.ofInt is.length)
  | "local-name", vs => aboutName d c (fun n => n.1.localPart) vs
  | "namespace-uri", vs => aboutName d c (fun n => n.2.getD "") vs
  | "name", vs => aboutName d c (fun n => n.1.text) vs
  | "string", [] => .ok (.text (txt here))
  | "string", [v] => .ok (.text (txt v))
  | "concat", a :: b :: rest => .ok (.text (String.join ((a :: b :: rest).map txt)))
  | "starts-with", [a, b] => .ok (.truth (Text.startsWith (txt a) (txt b)))
  | "contains", [a, b] => .ok (.truth (Text.contains (txt a) (txt b)))
  | "substring-before", [a, b] => .ok (.text (textBefore (txt a) (txt b)))
  | "substring-after", [a, b] => .ok (.text (textAfter (txt a) (txt b)))
  | "substring", [a, b] => .ok (.text (slice (txt a) (num b) none))
  | "substring", [a, b, l] => .ok (.text (slice (txt a) (num b) (some (num l))))
  | "string-length", [] => .ok (.number (.ofInt (txt here).length))
  | "string-length", [v] => .ok (.number (.ofInt (txt v).length))
  | "normalize-space", [] => .ok (.text (squeezed (txt here)))
  | "normalize-space", [v] => .ok (.text (squeezed (txt v)))
  | "translate", [a, b, t] => .ok (.text (translated (txt a) (txt b) (txt t)))
  | "boolean", [v] => .ok (.truth v.toTruth)
  | "not", [v] => .ok (.truth !v.toTruth)
  | "true", [] => .ok (.truth true)
  | "false", [] => .ok (.truth false)
  | "number", [] => .ok (.number (num here))
  | "number", [v] => .ok (.number (num v))
  | "sum", [v] =>
    (nodesOf v).map fun is =>
      .number ((is.map fun i => numberOfText (d.textValue i)).foldl Binary64.add (.zero false))
  | "floor", [v] => .ok (.number (num v).floor)
  | "ceiling", [v] => .ok (.number (num v).ceil)
  | "round", [v] => .ok (.number (num v).roundHalfUp)
  | _, _ =>
    let known := ["last", "position", "count", "string", "concat", "starts-with", "contains",
      "substring-before", "substring-after", "substring", "string-length", "normalize-space",
      "translate", "boolean", "not", "true", "false", "number", "sum", "floor", "ceiling", "round"]
    .error (if known.contains name then .wrongArgumentCount name else .unknownFunction name)

end SuiteRunner.XPath

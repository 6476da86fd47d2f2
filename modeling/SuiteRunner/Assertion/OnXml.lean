import SuiteRunner.Assertion.OnJson
import SuiteRunner.XPath.Evaluation

/-!
  SuiteRunner.Assertion.OnXml
  ────────────────────────────────
  **ASSERTIONS ON XML BODIES.**

  An assertion holds the text that an expression has for the document against an expected text.
  A body that is not well-formed is one failure of its own, and after it every assertion fails that
  needs the document.
-/

namespace SuiteRunner

namespace Assertion

open Xml (Document)

/-- The verdict on the text found. -/
def checkText (kind : AssertionKind) (expression expected actual : String) : Verdict :=
  let judge (ok : Bool) : Verdict :=
    if ok then .ok ()
    else .error (kind.word ++ " at " ++ expression ++ ": expected \"" ++ expected ++ "\", got \""
      ++ actual ++ "\"")
  match kind with
  | .equals => judge (actual == expected)
  | .contains => judge (Text.contains actual expected)
  | other =>
    .error (other.word ++ " is not supported for XPath assertions (use equals or contains)")

/-- The verdict on an assertion with its expression. -/
def checkXml (kind : AssertionKind) (expression expected : String) (d : Document) : Verdict :=
  match XPath.textAt? d expression with
  | .error f => .error ("invalid XPath '" ++ expression ++ "': " ++ f.message)
  | .ok none => .error ("No node matched XPath '" ++ expression ++ "'")
  | .ok (some actual) => checkText kind expression expected actual

/-- The verdict on one assertion, and the store after its placeholders are filled: those of the
expected value first, then those of the expression. -/
def verdictOnXml (o : Owner) (d : Option Document) (status : Nat) (a : Assertion) (s : Store) :
    Verdict × Store :=
  let (expected, s) := Store.injectJson o a.expected s
  match a.kind, d, a.xpathExpression with
  | .statusCode, _, _ => (checkStatus expected status, s)
  | kind, none, _ => (.error (kind.word ++ ": no XML document to evaluate"), s)
  | kind, some _, none => (.error (kind.word ++ ": missing xpathExpression"), s)
  | kind, some d, some expression =>
    let (expression, s) := s.inject o expression
    (checkXml kind expression (valueText expected) d, s)

/-- The verdicts on assertions, in order. -/
def verdictsOnXml (o : Owner) (d : Option Document) (status : Nat) :
    List Assertion → Store → List Verdict × Store
  | [], s => ([], s)
  | a :: rest, s =>
    let (v, s) := verdictOnXml o d status a s
    let (vs, s) := verdictsOnXml o d status rest s
    (v :: vs, s)

/-- **The outcome of assertions on an XML body.** -/
def evaluateOnXml (o : Owner) (text : String) (status : Nat) (as_ : List Assertion) (s : Store) :
    Outcome × Store :=
  let d := Document.ofText? text
  let first : List Verdict := match d with
    | some _ => []
    | none => [.error "response is not well-formed XML: no document could be read"]
  let (vs, s) := verdictsOnXml o d status as_ s
  (.ofVerdicts (first ++ vs), s)

end Assertion

end SuiteRunner

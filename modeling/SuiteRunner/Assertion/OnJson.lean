import SuiteRunner.Assertion.Outcome
import SuiteRunner.Json.Comparison
import SuiteRunner.Json.Render
import SuiteRunner.JsonPath.Select
import SuiteRunner.Regex.Parser
import SuiteRunner.Suite.Basic
import SuiteRunner.Variables.Store

/-!
  SuiteRunner.Assertion.OnJson
  ────────────────────────────────
  **ASSERTIONS ON JSON BODIES.**

  An assertion selects a value by a path and holds it against an expected value of which the
  placeholders are filled first.  No assertion keeps the others from being checked.
-/

namespace SuiteRunner

namespace Assertion

/-! ## §1. The status. -/

/-- Whether the status is the one expected. -/
def checkStatus (expected : Json) (status : Nat) : Verdict :=
  if (expected.asNumber?.map fun x => x.equal (.ofInt status)) == some true then .ok ()
  else .error ("statusCode: expected " ++ valueText expected ++ ", got " ++ toString status)

/-! ## §2. Tests on the value found. -/

/-- The text of a value that may be missing. -/
def shown : Option Json → String
  | none => "undefined"
  | some v => v.compact

/-- Whether a list has an item equal to a value. -/
def anyEqual (items : List Json) (v : Json) : Bool := items.any fun i => i.equalValues v

/-- Whether a value found is among the values expected. -/
def isAmong (found : Option Json) (expected : Json) : Bool :=
  match found, expected with
  | some a, .arr options => options.any fun o => a.equalValues o
  | _, _ => false

/-- Whether two numbers satisfy a relation. -/
def compareNumbers (rel : Binary64 → Binary64 → Bool) (found : Option Json) (expected : Json) : Bool :=
  match found.bind Json.asNumber?, expected.asNumber? with
  | some a, some e => rel a e
  | _, _ => false

/-- Whether a count is the number expected. -/
def countIs (count : Option Nat) (expected : Json) : Bool :=
  match count, expected.asNumber? with
  | some n, some e => (Binary64.ofInt n).equal e
  | _, _ => false

/-- The word for the type of a value that may be missing. -/
def typeWord : Option Json → String
  | none => "undefined"
  | some (.str _) => "string"
  | some (.num _) => "number"
  | some (.bool _) => "boolean"
  | some _ => "object"

/-- Whether a value found satisfies an assertion, for the kinds that say no more than that. -/
def holds (kind : AssertionKind) (found : Option Json) (expected : Json) : Bool :=
  match kind with
  | .equals => (found.map fun a => a.equalValues expected) == some true
  | .notEquals => !((found.map fun a => a.equalValues expected) == some true)
  | .contains =>
    match found with
    | some (.str s) => Text.contains s (valueText expected)
    | some (.arr items) => anyEqual items expected
    | _ => false
  | .startsWith =>
    match found with
    | some (.str s) => Text.startsWith s (valueText expected)
    | _ => false
  | .endsWith =>
    match found with
    | some (.str s) => Text.endsWith s (valueText expected)
    | _ => false
  | .greaterThan => compareNumbers (fun a e => e.less a) found expected
  | .lessThan => compareNumbers (fun a e => a.less e) found expected
  | .isIn => isAmong found expected
  | .notIn => !isAmong found expected
  | .includesAll =>
    match found, expected with
    | some (.arr items), .arr wanted => wanted.all (anyEqual items)
    | _, _ => false
  | .length =>
    countIs (match found with
      | some (.str s) => some s.length
      | some (.arr items) => some items.length
      | _ => none) expected
  | .size =>
    countIs (match found with
      | some (.arr items) => some items.length
      | some (.obj ms) => some ms.length
      | _ => none) expected
  | .type =>
    let wanted := valueText expected
    typeWord found == wanted
      || (wanted == "array" && (match found with
        | some (.arr _) => true
        | _ => false))
  | .exists_ =>
    found.isSome == (match expected with
      | .bool b => b
      | _ => true)
  | _ => false

/-- The failure of a test on a value found. -/
def mismatch (kind : AssertionKind) (path : String) (found : Option Json) (expected : Json) :
    String :=
  kind.word ++ " at " ++ path ++ ": expected " ++ expected.compact ++ ", got " ++ shown found

/-! ## §3. Patterns and elements of arrays. -/

/-- Whether the text of a value found fits a pattern. -/
def checkRegex (path : String) (found : Option Json) (expected : Json) : Verdict :=
  let pattern := valueText expected
  match Regex.parse? pattern with
  | none => .error ("regex at " ++ path ++ ": invalid pattern '" ++ pattern ++ "': regex parse error")
  | some p =>
    if (found.map fun a => p.isMatch (valueText a)) == some true then .ok ()
    else .error (mismatch .regex path found expected)

/-- Whether an item is an object with a value under a key. -/
def hasValueAt (item : Json) (key : String) (v : Json) : Bool :=
  ((item.member? key).map fun w => w.equalValues v) == some true

/-- Whether the first element with one value has another value. -/
def checkElement (a : Assertion) (path : String) (found : Option Json) (expected : Json) : Verdict :=
  let at_ := "arrayObjectMatch at " ++ path ++ ": "
  match a.matchField, a.matchValue, a.assertField with
  | some key, some wanted, some field =>
    match found with
    | some (.arr items) =>
      match items.find? fun item => hasValueAt item key wanted with
      | none => .error (at_ ++ "no element with " ++ key ++ " == " ++ wanted.compact)
      | some element =>
        if hasValueAt element field expected then .ok ()
        else .error (at_ ++ "field '" ++ field ++ "' of element with " ++ key ++ " == "
          ++ wanted.compact ++ " expected " ++ expected.compact ++ ", got "
          ++ shown (element.member? field))
    | _ => .error (at_ ++ "value is not an array")
  | _, _, _ => .error (at_ ++ "matchField, matchValue and assertField are required")

/-! ## §4. One assertion and all of them. -/

/-- The verdict on a value found. -/
def checkFound (a : Assertion) (path : String) (found : Option Json) (expected : Json) : Verdict :=
  match a.kind with
  | .regex => checkRegex path found expected
  | .arrayObjectMatch => checkElement a path found expected
  | kind => if holds kind found expected then .ok () else .error (mismatch kind path found expected)

/-- The verdict on an assertion whose expected value is given; a body that is no JSON is absent. -/
def checkJson (a : Assertion) (expected : Json) (body : Option Json) (status : Nat) : Verdict :=
  match a.kind with
  | .statusCode => checkStatus expected status
  | kind =>
    match a.jsonPath with
    | none => .error (kind.word ++ ": missing jsonPath")
    | some path =>
      match body with
      | none => .error (kind.word ++ " at " ++ path ++ ": response body is not JSON")
      | some doc =>
        match JsonPath.select doc path with
        | .error e => .error e
        | .ok found => checkFound a path found expected

/-- The verdicts on assertions, each expected value filled in the store that the ones before it
left. -/
def verdictsOnJson (o : Owner) (body : Option Json) (status : Nat) :
    List Assertion → Store → List Verdict × Store
  | [], s => ([], s)
  | a :: rest, s =>
    let (expected, s) := Store.injectJson o a.expected s
    let (vs, s) := verdictsOnJson o body status rest s
    (a.checkJson expected body status :: vs, s)

/-- **The outcome of assertions on a JSON body.** -/
def evaluateOnJson (o : Owner) (body : Option Json) (status : Nat) (as_ : List Assertion)
    (s : Store) : Outcome × Store :=
  let (vs, s) := verdictsOnJson o body status as_ s
  (.ofVerdicts vs, s)

end Assertion

end SuiteRunner

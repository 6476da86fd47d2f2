import SuiteRunner.Json.Value
import SuiteRunner.Json.Render
import SuiteRunner.Locator.Basic
import SuiteRunner.Text.SortedMap
import SuiteRunner.Variables.Scope

/-!
  SuiteRunner.Suite.Basic
  ────────────────────────────────
  **WHAT A SUITE SAYS.**

  A suite has test cases.  A case of an API suite has data items, each of which describes one
  request and what is asserted of its response; a case of a browser suite has steps.  All of it
  is read-only input.
-/

namespace SuiteRunner

/-! ## §1. Kinds. -/

/-- The two kinds of suites. -/
inductive SuiteKind where
  | api
  | ui
  deriving DecidableEq, Repr, Inhabited

/-- The word for a kind of suite. -/
def SuiteKind.word : SuiteKind → String
  | .api => "API"
  | .ui => "UI"

/-- The three kinds of test cases. -/
inductive CaseKind where
  | rest
  | soap
  | ui
  deriving DecidableEq, Repr, Inhabited

/-- The word for a kind of test case. -/
def CaseKind.word : CaseKind → String
  | .rest => "REST"
  | .soap => "SOAP"
  | .ui => "UI"

/-- The kinds of assertions. -/
inductive AssertionKind where
  | equals | notEquals | contains | startsWith | endsWith | greaterThan | lessThan
  | isIn | notIn | includesAll | length | size | statusCode | type | exists_ | regex
  | arrayObjectMatch
  deriving DecidableEq, Repr, Inhabited

/-- Every kind of assertion with its word. -/
def AssertionKind.named : List (String × AssertionKind) := [
  ("equals", .equals), ("notEquals", .notEquals), ("contains", .contains),
  ("startsWith", .startsWith), ("endsWith", .endsWith), ("greaterThan", .greaterThan),
  ("lessThan", .lessThan), ("in", .isIn), ("notIn", .notIn), ("includesAll", .includesAll),
  ("length", .length), ("size", .size), ("statusCode", .statusCode), ("type", .type),
  ("exists", .exists_), ("regex", .regex), ("arrayObjectMatch", .arrayObjectMatch)]

/-- The word for a kind of assertion. -/
def AssertionKind.word (k : AssertionKind) : String :=
  match AssertionKind.named.find? (fun e => e.2 == k) with
  | some e => e.1
  | none => ""

/-! ## §2. Parts. -/

/-- A function that runs before a request or a step and writes variables. -/
structure PreProcessStep where
  function : String := ""
  args : List Json := []
  var : Option String := none
  /-- Which part of the output goes into which variable. -/
  mapTo : Option TextMap := none
  /-- The scope of the variables; global if it is not stated. -/
  scope : Option Scope := none
  deriving Inhabited

/-- What is asserted of a response. -/
structure Assertion where
  kind : AssertionKind := .equals
  jsonPath : Option String := none
  xpathExpression : Option String := none
  expected : Json := .null
  matchField : Option String := none
  matchValue : Option Json := none
  assertField : Option String := none
  deriving Inhabited

/-- A call of a registered step or of a method of a page object. -/
structure CustomCall where
  function : String := ""
  args : List Json := []
  deriving Inhabited

/-- One request and what is asserted of its response. -/
structure DataItem where
  name : String := ""
  method : String := "GET"
  endpoint : String := ""
  headers : TextMap := .empty
  body : Option Json := none
  bodyFile : Option String := none
  preProcess : List PreProcessStep := []
  assertions : List Assertion := []
  responseSchema : Option Json := none
  /-- A file that holds the schema; it wins over `responseSchema`. -/
  responseSchemaFile : Option String := none
  /-- For each variable the path of its value in the response. -/
  store : TextMap := .empty
  deriving Inhabited

/-- One action in a browser. -/
structure Step where
  id : String := ""
  keyword : String := ""
  description : Option String := none
  locator : Option Locator := none
  value : Option Json := none
  options : List (String × Json) := []
  customFunction : Option CustomCall := none
  /-- Text that is kept for authors; what runs is the plugin registered under the step's id. -/
  customCode : Option String := none
  preProcess : List PreProcessStep := []
  store : TextMap := .empty
  localStore : TextMap := .empty
  skipOnFailure : Bool := false
  enabled : Bool := true
  deriving Inhabited

/-! ## §3. Cases and suites. -/

/-- A test case. -/
structure TestCase where
  id : String := ""
  name : String := ""
  kind : CaseKind := .rest
  status : Option String := none
  data : List DataItem := []
  steps : List Step := []
  dependsOn : List String := []
  priority : Option Json := none
  deriving Inhabited

/-- A suite. -/
structure Suite where
  id : String := ""
  name : String := ""
  application : String := ""
  kind : SuiteKind := .api
  baseUrl : String := ""
  tags : List TextMap := []
  cases : List TestCase := []
  deriving Inhabited

/-- Whether something with an id and a name is meant: a text that is not empty must fit. -/
def identifiedBy (id name wantedId wantedName : String) : Bool :=
  (!id.isEmpty && id == wantedId) || (!name.isEmpty && name == wantedName)

/-- Whether the case is the one meant by an id or a name. -/
def TestCase.isIdentifiedBy (c : TestCase) (id name : String) : Bool :=
  identifiedBy c.id c.name id name

/-- Whether the suite is the one meant by an id or a name. -/
def Suite.isIdentifiedBy (s : Suite) (id name : String) : Bool :=
  identifiedBy s.id s.name id name

/-- The keys and values of all tags, in order. -/
def Suite.tagPairs (s : Suite) : List (String × String) := s.tags.flatMap TextMap.entries

/-- The suite with one case only. -/
def Suite.withSingleCase (s : Suite) (c : TestCase) : Suite := { s with cases := [c] }

/-- A value as it stands in variables and inputs: texts as they are, null as the empty text. -/
def valueText : Json → String
  | .str s => s
  | .null => ""
  | v => v.compact

end SuiteRunner

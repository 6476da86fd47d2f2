import SuiteRunner.Api.Soap
import SuiteRunner.Assertion.OnJson
import SuiteRunner.Assertion.OnXml
import SuiteRunner.Files.Path
import SuiteRunner.Http.Charset
import SuiteRunner.Http.Client
import SuiteRunner.JsonPath.Select
import SuiteRunner.PreProcess.Pipeline
import SuiteRunner.Report.Entry
import SuiteRunner.Schema.Validation

/-!
  SuiteRunner.Api.Run
  ────────────────────────────────
  **RUNNING THE DATA ITEMS OF AN API CASE.**

  The address of an item is filled first; then its functions run, and its headers and its body are
  filled with what they left.  Whatever fails up to the response makes the item fail with nothing
  counted.  A response is judged by its schema and by the assertions, and only then are values of
  it stored.
-/

namespace SuiteRunner

/-- How the items of a run are carried out. -/
structure ApiSetup where
  /-- The directory that files of items are relative to. -/
  baseDir : String := "."
  preProcess : PreProcessSetup := {}

namespace Api

/-! ## §1. What an item sends. -/

/-- The body of a request. -/
inductive Body where
  | none
  | document (v : Json)
  | text (s : String)

/-- The text that is sent for a body. -/
def Body.text? : Body → Option String
  | .none => Option.none
  | .document v => some v.compact
  | .text s => some s

/-- The headers with those that a body asks for and that are not given. -/
def Body.completing (b : Body) (headers : TextMap) : TextMap :=
  match b with
  | .document _ =>
    if (headers.get? "content-type").isSome then headers
    else headers.insert "content-type" "application/json"
  | _ => headers

/-- The text of a file of an item. -/
def readFile (setup : ApiSetup) (file : String) : Task Store String := do
  let path := Path.join setup.baseDir file
  let answer : Except String String ← Task.ask (.readText path)
  match answer with
  | .ok text => return text
  | .error reason => throw (.suiteLoad ("cannot read " ++ path ++ ": " ++ reason))

/-- A text as a document; `what` names the file it comes from. -/
def documentOf (what text : String) : Except Failure Json :=
  match Json.parse text with
  | .ok v => .ok v
  | .error e => .error (.suiteLoad (what ++ ": " ++ e.message))

/-- Values with their placeholders filled, in order. -/
def fillHeaders (o : Owner) : List (String × String) → Store → List (String × String) × Store
  | [], s => ([], s)
  | (k, v) :: rest, s =>
    let (v, s) := s.inject o v
    let (more, s) := fillHeaders o rest s
    ((k, v) :: more, s)

/-- A text body, filled. -/
def textBody (o : Owner) (text : String) : Task Store Body := do
  let text ← Task.update fun s => s.inject o text
  return .text text

/-- A body that is a document, filled. -/
def documentBody (o : Owner) (v : Json) : Task Store Body := do
  let v ← Task.update (Store.injectJson o v)
  return .document v

/-- **The body of an item:** its file, or else the body it states.  SOAP bodies are texts. -/
def bodyOf (setup : ApiSetup) (o : Owner) (item : DataItem) (soap : Bool) : Task Store Body :=
  match item.bodyFile, item.body with
  | some file, _ => do
    let text ← readFile setup file
    if soap then textBody o text
    else documentBody o (← Task.ofExcept (documentOf ("body file " ++ file) text))
  | none, none => return .none
  | none, some .null => return .none
  | none, some (.str text) => if soap then textBody o text else documentBody o (.str text)
  | none, some v => documentBody o v

/-- The schema of an item: its file, or else the schema it states.  SOAP items have none. -/
def schemaOf (setup : ApiSetup) (item : DataItem) (soap : Bool) : Task Store (Option Json) :=
  if soap then return none
  else
    match item.responseSchemaFile with
    | some file => do
      let text ← readFile setup file
      let v ← Task.ofExcept (documentOf ("schema file " ++ file) text)
      return some v
    | none => return item.responseSchema

/-- The request of an item that is filled. -/
def requestOf (method address : String) (headers : TextMap) (body : Body) :
    Except Failure Http.Outgoing := do
  let method ← Http.methodOf method
  let headers ← Http.headersOf headers
  Http.outgoing method address (body.completing headers) body.text?

/-! ## §2. What an item receives. -/

/-- A response, and how it is to be judged. -/
structure Exchange where
  soap : Bool
  schema : Option Json
  response : Http.Response

namespace Exchange

/-- The text of the response. -/
def text (x : Exchange) : String := x.response.text

/-- The response as a document, if it is one. -/
def document? (x : Exchange) : Option Json := (Json.parse x.text).toOption

/-- What the report keeps of the response. -/
def snapshot (x : Exchange) : Snapshot :=
  .of x.response.status (Http.readableHeaders x.response.headers) x.text x.document?

end Exchange

/-- **Do the exchange of an item.** -/
def exchange (setup : ApiSetup) (suite : Suite) (c : TestCase) (o : Owner) (item : DataItem) :
    Task Store Exchange := do
  let address ← Task.update fun s => s.inject o (suite.baseUrl ++ item.endpoint)
  PreProcess.runAll setup.preProcess o item.preProcess
  let headers ← Task.update (fillHeaders o item.headers.entries)
  let headers := TextMap.ofList headers
  let soap := c.kind == .soap || isSoap headers
  let body ← bodyOf setup o item soap
  let schema ← schemaOf setup item soap
  let request ← Task.ofExcept (requestOf item.method address headers body)
  let response ← Task.ofExcept (← Task.errand (Http.send request))
  return ⟨soap, schema, response⟩

/-! ## §3. Judging and storing. -/

/-- The verdict of a schema, if there is one. -/
def schemaOutcome (x : Exchange) : Outcome :=
  match x.schema with
  | some schema => .ofVerdicts [Schema.verdict schema x.document?]
  | none => .empty

/-- The outcome of the schema and the assertions of an item. -/
def judge (o : Owner) (item : DataItem) (x : Exchange) (s : Store) : Outcome × Store :=
  if x.soap then Assertion.evaluateOnXml o x.text x.response.status item.assertions s
  else
    let (outcome, s) := Assertion.evaluateOnJson o x.document? x.response.status item.assertions s
    ((schemaOutcome x).merge outcome, s)

/-- The value that a path selects in a response, or why it selects none. -/
def stored (name path : String) (document : Option Json) : Except String Json :=
  match document with
  | none => .error ("store " ++ name ++ ": response body is not JSON")
  | some v =>
    match JsonPath.select v path with
    | .ok (some found) => .ok found
    | .ok none => .error ("store " ++ name ++ ": nothing matched " ++ path)
    | .error e => .error ("store " ++ name ++ ": " ++ e)

/-- Store one value of a response as a global variable. -/
def storeOne (o : Owner) (document : Option Json) (name path : String) (outcome : Outcome)
    (s : Store) : Outcome × Store :=
  let (path, s) := s.inject o path
  match stored name path document with
  | .ok v => (outcome, s.setGlobal name (valueText v))
  | .error e => (outcome.fail e, s)

/-- **Store values of a response,** one after another; each that is not there counts as failed. -/
def storeAll (o : Owner) (document : Option Json) :
    List (String × String) → Outcome → Store → Outcome × Store
  | [], outcome, s => (outcome, s)
  | (name, path) :: rest, outcome, s =>
    let (outcome, s) := storeOne o document name path outcome s
    storeAll o document rest outcome s

/-- The outcome of an item that got a response, and the store with values of it. -/
def conclude (o : Owner) (item : DataItem) (x : Exchange) (s : Store) : Outcome × Store :=
  let (outcome, s) := judge o item x s
  storeAll o x.document? item.store.entries outcome s

/-! ## §4. Entries. -/

/-- The name of an item, or what it does if it has none. -/
def itemName (item : DataItem) : String :=
  if item.name.isEmpty then item.method ++ " " ++ item.endpoint else item.name

/-- The entry of an item before it runs. -/
def newEntry (suite : Suite) (c : TestCase) (index : Nat) (item : DataItem) : Entry :=
  { suiteId := suite.id, suiteName := suite.name, caseId := c.id, caseName := c.name,
    kind := .dataItem, index := index, name := itemName item }

/-- The entry of an item that got a response. -/
def judged (e : Entry) (x : Exchange) (outcome : Outcome) : Entry :=
  { e with status := if outcome.failed = 0 then .pass else .fail,
           assertionsPassed := outcome.passed, assertionsFailed := outcome.failed,
           error := if outcome.failed = 0 then none else some ("; ".intercalate outcome.errors),
           response := some x.snapshot }

/-- The entry of an item that got none. -/
def failed (e : Entry) (f : Failure) : Entry := { e with status := .fail, error := some f.message }

/-- **Run the item at a position of its case.** -/
def runItem (setup : ApiSetup) (suite : Suite) (c : TestCase) (index : Nat) (item : DataItem) :
    Task Store Entry := do
  let o : Owner := ⟨suite.id, c.id⟩
  let e := newEntry suite c index item
  let started : Int ← Task.ask .clock
  let e ← match ← (exchange setup suite c o item).result with
    | .ok x => do
      let outcome ← Task.update (conclude o item x)
      pure (judged e x outcome)
    | .error f => pure (failed e f)
  let finished : Int ← Task.ask .clock
  return { e with duration := (finished - started).toNat }

/-- The entries of items in order, the first of which stands at a position. -/
def runItems (setup : ApiSetup) (suite : Suite) (c : TestCase) :
    Nat → List DataItem → Task Store (List Entry)
  | _, [] => return []
  | index, item :: rest => do
    let e ← runItem setup suite c index item
    let es ← runItems setup suite c (index + 1) rest
    return e :: es

/-- The entries of a test case. -/
def runCase (setup : ApiSetup) (suite : Suite) (c : TestCase) : Task Store (List Entry) :=
  runItems setup suite c 0 c.data

/-- The entries of test cases in order. -/
def runCases (setup : ApiSetup) (suite : Suite) : List TestCase → Task Store (List Entry)
  | [] => return []
  | c :: rest => do
    let es ← runCase setup suite c
    let more ← runCases setup suite rest
    return es ++ more

/-- **Run all cases of a suite.** -/
def runSuite (setup : ApiSetup) (suite : Suite) : Task Store (List Entry) :=
  runCases setup suite suite.cases

/-- Run one item, which has to be there. -/
def runDataItem (setup : ApiSetup) (suite : Suite) (c : TestCase) (index : Nat) :
    Task Store Entry :=
  match c.data[index]? with
  | some item => runItem setup suite c index item
  | none => throw (.dataNotFound c.name (toString index))

end Api

end SuiteRunner

import SuiteRunner.Rehearsal.Custom
import SuiteRunner.Rehearsal.World

/-!
  SuiteRunner.Rehearsal.Script
  ────────────────────────────────
  **SCRIPTS AS DOCUMENTS.**

  A rehearsal is written as a document: rules for browsers, databases and servers, and behaviours
  for custom code.  Reading is lenient: what is missing or of another kind has its usual value.
-/

namespace SuiteRunner.Rehearsal.Script

/-! ## §1. Lenient look-ups. -/

/-- A member; null if it is missing. -/
def field (v : Json) (key : String) : Json := (v.member? key).getD .null

/-- A text; the empty one if it is something else. -/
def textOf (v : Json) : String := v.text?.getD ""

/-- A text member. -/
def textField (v : Json) (key : String) : String := textOf (field v key)

/-- A text member, if there is one. -/
def textField? (v : Json) (key : String) : Option String := (v.member? key).bind Json.text?

/-- The items of an array member. -/
def listField (v : Json) (key : String) : List Json := ((field v key).items?).getD []

/-- Whether a member is exactly true. -/
def flagField (v : Json) (key : String) : Bool := field v key == .bool true

/-- A number member. -/
def natField (v : Json) (key : String) (usual : Nat) : Nat :=
  match field v key with
  | .num (.int n) => n.toNat
  | _ => usual

/-- The text members of an object. -/
def textsOf (v : Json) : List (String × String) :=
  (v.members?.getD []).filterMap fun (k, w) => w.text?.map fun t => (k, t)

/-! ## §2. Failures. -/

/-- The words for failures with a text. -/
def failures : List (String × (String → Failure)) := [
  ("AssertionFailed", .assertionFailed), ("Timeout", .timeout), ("Request", .request),
  ("Table", .table), ("Config", .config), ("NoActivePage", fun _ => .noActivePage),
  ("PlaywrightNotFound", fun _ => .browserToolMissing), ("MissingLocator", .missingLocator),
  ("MissingValue", .missingValue), ("UnknownKeyword", .unknownKeyword),
  ("UnknownStrategy", .unknownStrategy), ("Unimplemented", .unimplemented),
  ("CustomStepNotFound", .customStepNotFound), ("CustomCodeTimeout", .customTimeout),
  ("CustomCodeLocator", .customLocator), ("CustomCodeAssertion", .customAssertion),
  ("CustomCode", .customCode), ("DatabaseQuery", .databaseQuery),
  ("DatabaseConfig", .databaseConfig)]

/-- A scripted failure; one of an unknown kind is a failure of the browser. -/
def failureOf (v : Json) : Failure :=
  ((failures.lookup (textField v "kind")).getD .driver) (textField v "message")

/-- A scripted result or failure. -/
def resultOf (v : Json) : Except Failure Json :=
  match v.member? "error" with
  | some e => .error (failureOf e)
  | none => .ok (field v "result")

/-! ## §3. Rules. -/

/-- How many answers a rule has. -/
def timesOf (v : Json) : Option Nat := ((v.member? "times").bind Json.int?).map Int.toNat

/-- Whether a text is the one that is wanted; null wants that there is none. -/
def fitsText (wanted : Option Json) (found : Option String) : Bool :=
  match wanted with
  | none => true
  | some .null => found.isNone
  | some (.str s) => found == some s
  | some _ => false

/-- The word for what happens to a browser, and what is called if something is. -/
def eventParts : BrowserEvent → String × Option CallTarget
  | .created => ("$create", none)
  | .launched => ("$launch", none)
  | .closed => ("$close", none)
  | .called c => (c.method, some c.target)

/-- A rule for browsers. -/
def browserRule (v : Json) : Rule BrowserEvent (Except Failure Json) where
  left := timesOf v
  answer := resultOf v
  fits e :=
    let (word, target) := eventParts e
    word == textField v "method"
      && fitsText (v.member? "selector") (target.bind CallTarget.selector?)
      && fitsText (v.member? "page") (target.bind CallTarget.page?)

/-- A rule for databases. -/
def databaseRule (v : Json) : Rule DatabaseQuery (Except Failure Json) where
  left := timesOf v
  answer := resultOf v
  fits q := ((textField? v "sql").map fun s => s == q.sql) != some false

/-- The bytes of a list of numbers. -/
def bytesOf (vs : List Json) : List UInt8 := vs.map fun x => UInt8.ofNat (x.int?.getD 0).toNat

/-- The body of a response: a document, a text, or bytes. -/
def bodyOf (v : Json) : List UInt8 :=
  match v.member? "json", v.member? "body" with
  | some d, _ => Utf8.encode d.compact
  | none, some t => Utf8.encode (textOf t)
  | none, none => bytesOf (listField v "bytes")

/-- The response that a rule describes. -/
def responseOf (v : Json) : Http.Response where
  status := natField v "status" 200
  headers := (textsOf (field v "headers")).map fun (k, h) => (LetterCase.asciiLower k, h)
  body := bodyOf v

/-- A rule for servers. -/
def serverRule (v : Json) : Rule Http.Request ServerAnswer where
  left := timesOf v
  answer := if flagField v "drop" then .hangUp else .respond (responseOf v)
  fits r := fitsText (v.member? "method") (some r.method) && fitsText (v.member? "url") (some r.url)

/-! ## §4. Custom code. -/

/-- A behaviour. -/
def behaviourOf (v : Json) : Behaviour where
  wait := natField v "sleep_ms" 0
  calls := (listField v "calls").map fun c =>
    ⟨textField c "selector", textField c "method", listField c "args"⟩
  failure := (v.member? "error").map failureOf
  echo := flagField v "echo"
  result := field v "result"

/-- Behaviours by names. -/
def behavioursOf (v : Json) : List (String × Behaviour) :=
  (v.members?.getD []).map fun (k, b) => (k, behaviourOf b)

/-- Custom code by names. -/
def registeredOf (v : Json) : Registered where
  steps := behavioursOf (field v "steps")
  plugins := behavioursOf (field v "code")
  pageObjects := ((field v "pages").members?.getD []).map fun (k, ms) => (k, behavioursOf ms)

/-! ## §5. Worlds. -/

/-- A file that is written as a text, a directory, or any other document. -/
def fileOf : Json → FileEntry
  | .str s => .text s
  | .null => .directory
  | v => .text v.compact

/-- The files of a document. -/
def filesOf (v : Json) : FileTree :=
  .ofFiles ((v.members?.getD []).map fun (k, f) => (k, fileOf f))

/-- **The world of a document.** -/
def worldOf (v : Json) : World where
  browserScript := (listField v "script").map browserRule
  databaseScript := (listField v "db").map databaseRule
  databaseReachable := !flagField v "realDb"
  serverScript := (listField v "http").map serverRule
  files := filesOf (field v "files")
  environment := ("HOME", "/home/tester") :: textsOf (field v "env")

/-! ## §6. Logs as documents. -/

/-- What happened to a browser. -/
def eventToJson : BrowserEvent → Json
  | .called c => c.toJson
  | e => .obj [("method", .str (eventParts e).1)]

/-- A question to a database. -/
def queryToJson (q : DatabaseQuery) : Json := .obj [
  ("config", q.config.toJson), ("sql", .str q.sql), ("params", .arr (q.params.map .str))]

/-- The headers that a log leaves out. -/
def unlogged : List String :=
  ["host", "content-length", "accept", "connection", "proxy-connection"]

/-- A request. -/
def requestToJson (r : Http.Request) : Json := .obj [
  ("method", .str r.method), ("url", .str r.url),
  ("headers", .obj ((r.headers.filter fun (k, _) => !unlogged.contains k).map
    fun (k, v) => (k, .str v))),
  ("body", .str (r.body.getD ""))]

end SuiteRunner.Rehearsal.Script

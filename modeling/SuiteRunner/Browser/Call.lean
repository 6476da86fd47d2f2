import SuiteRunner.Json.Decode

/-!
  SuiteRunner.Browser.Call
  ────────────────────────────────
  **CALLS TO A BROWSER.**

  A call names its target, a method and arguments.  A target is the browser's context, a page, an
  element on a page by its selector, the keyboard of a page, or an expectation.
-/

namespace SuiteRunner

/-- What a call is addressed to. -/
inductive CallTarget where
  | context
  | page (page : String)
  | locator (page selector : String)
  | keyboard (page : String)
  /-- An expectation of an element, or of the page when there is no selector. -/
  | expectation (page : String) (selector : Option String) (negated : Bool)
  deriving DecidableEq, Repr, Inhabited

/-- One call to a browser. -/
structure BrowserCall where
  target : CallTarget := .context
  method : String := ""
  args : List Json := []
  deriving Inhabited

namespace CallTarget

/-- The page of a target. -/
def page? : CallTarget → Option String
  | .context => none
  | .page p | .locator p _ | .keyboard p | .expectation p _ _ => some p

/-- The selector of a target. -/
def selector? : CallTarget → Option String
  | .locator _ s => some s
  | .expectation _ s _ => s
  | _ => none

/-- The document of a target. -/
def toJson : CallTarget → Json
  | .context => .obj [("kind", .str "context")]
  | .page p => .obj [("kind", .str "page"), ("page", .str p)]
  | .locator p s => .obj [("kind", .str "locator"), ("page", .str p), ("selector", .str s)]
  | .keyboard p => .obj [("kind", .str "keyboard"), ("page", .str p)]
  | .expectation p s n => .obj [("kind", .str "expect"), ("page", .str p),
      ("selector", Json.ofOption .str s), ("negate", .bool n)]

open Decode

/-- The words for kinds of targets. -/
def kinds : List String := ["context", "page", "locator", "keyboard", "expect"]

/-- The field for the page of a target. -/
def pageField : RecordField CallTarget := must "page" text fun p t =>
  match t with
  | .context => .context
  | .page _ => .page p
  | .locator _ s => .locator p s
  | .keyboard _ => .keyboard p
  | .expectation _ s n => .expectation p s n

/-- The field for the selector of an element. -/
def elementField : RecordField CallTarget := must "selector" text fun s t =>
  match t with
  | .locator p _ => .locator p s
  | t => t

/-- The field for the selector of an expectation. -/
def subjectField : RecordField CallTarget := may "selector" (optional text) fun s t =>
  match t with
  | .expectation p _ n => .expectation p s n
  | t => t

/-- The field that turns an expectation round. -/
def negateField : RecordField CallTarget := must "negate" boolean fun n t =>
  match t with
  | .expectation p s _ => .expectation p s n
  | t => t

/-- The body of a target of some kind. -/
def ofKind (kind : String) (b : Body) : Except DecodeError CallTarget :=
  let variant (name : String) := "struct variant CallTarget::" ++ name
  match kind with
  | "context" => (bodyEmpty b).map fun _ => .context
  | "page" => bodyFields (variant "Page") [pageField] (.page "") b
  | "locator" => bodyFields (variant "Locator") [pageField, elementField] (.locator "" "") b
  | "keyboard" => bodyFields (variant "Keyboard") [pageField] (.keyboard "") b
  | _ =>
    bodyFields (variant "Expect") [pageField, subjectField, negateField]
      (.expectation "" none false) b

/-- Read a target. -/
def decode : Decoder CallTarget := tagged "CallTarget" "kind" kinds ofKind

end CallTarget

namespace BrowserCall

open Decode

/-- Read a call. -/
def decode : Decoder BrowserCall := record "struct DriverCall" [
  must "target" CallTarget.decode fun a c => { c with target := a },
  must "method" text fun a c => { c with method := a },
  must "args" (list json) fun a c => { c with args := a }] {}

/-- The document of a call. -/
def toJson (c : BrowserCall) : Json := .obj [
  ("target", c.target.toJson), ("method", .str c.method), ("args", .arr c.args)]

end BrowserCall

/-- An argument that stands for the element with a selector. -/
def locatorArgument (selector : String) : Json := .obj [("$locator", .str selector)]

end SuiteRunner

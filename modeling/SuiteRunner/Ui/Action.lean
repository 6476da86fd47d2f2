import SuiteRunner.Locator.Document
import SuiteRunner.Ui.Table

/-!
  SuiteRunner.Ui.Action
  ────────────────────────────────
  **WHAT A STEP DOES, WITH ALL ITS OPERANDS.**

  An action is a keyword together with everything it needs.  Making the action of a step needs no
  browser, so a step that lacks an operand or whose locator cannot be resolved fails before
  anything happens.
-/

namespace SuiteRunner

/-- What a step does. -/
inductive Action where
  | openBrowser (url : Option String)
  | closeBrowser
  | newPage (url : Option String)
  /-- Close the page at a position, or the active one. -/
  | closePage (position : Option Nat)
  | screenshot (name : String)
  /-- Call a method of the active page, with or without an output. -/
  | onPage (output : Bool) (method : String) (args : List Json)
  /-- Call a method of an element, with or without an output. -/
  | onElement (output : Bool) (selector method : String) (args : List Json)
  | onKeyboard (method : String) (args : List Json)
  | pause (milliseconds : Nat)
  /-- Expect something of an element, or of the page. -/
  | expect (selector : Option String) (negated : Bool) (method : String) (args : List Json)
  | switchToPopup (options : Json)
  | switchToTab (position : Nat)
  | switchToMainTab
  | useTable (table : String) (use : Table.Use)
  | judge (verdict : Except Failure Unit)
  | refuse (failure : Failure)
  | customStep (call : CustomCall)
  | customCode

namespace Action

/-! ## §1. Addresses. -/

/-- A text without slashes at its end. -/
def dropSlashes (s : String) : String :=
  String.ofList (s.toList.reverse.dropWhile (· == '/')).reverse

/-- An address; one that begins with a slash is below the suite's address, if that is given. -/
def address (base target : String) : String :=
  if target.toList.head? == some '/' && !base.isEmpty then dropSlashes base ++ target else target

/-! ## §2. Families of actions. -/

/-- An action on the step's element, with the time limit as its last argument. -/
def element (s : Step) (method : String) (args : List Json) : Except Failure Action := do
  let selector ← s.selector
  return .onElement false selector method (args ++ [s.limitArgument])

/-- An action on the step's element with further members in its last argument. -/
def elementWith (s : Step) (method : String) (args : List Json) (members : List (String × Json)) :
    Except Failure Action := do
  let selector ← s.selector
  return .onElement false selector method (args ++ [.obj (s.limitMembers ++ members)])

/-- A question to the step's element. -/
def queryElement (s : Step) (method : String) (args : List Json) : Except Failure Action := do
  let selector ← s.selector
  return .onElement true selector method args

/-- An expectation of the step's element. -/
def expectElement (s : Step) (negated : Bool) (method : String) (args : List Json) :
    Except Failure Action := do
  let selector ← s.selector
  return .expect (some selector) negated method (args ++ [s.limitArgument])

/-- An expectation of the page. -/
def expectPage (s : Step) (method text : String) : Action :=
  .expect none false method [.str text, s.limitArgument]

/-- A call of a method of the page without an output. -/
def page (method : String) (args : List Json) : Except Failure Action := .ok (.onPage false method args)

/-! ## §3. Operands of single keywords. -/

/-- The size of a viewport: two options, or the value as a width and a height with an x between. -/
def viewport (s : Step) : Except Failure (Nat × Nat) :=
  match s.optionNumber? "width", s.optionNumber? "height" with
  | some w, some h => .ok (Step.count w, Step.count h)
  | _, _ =>
    s.need do
      let text ← s.valueText?
      let (w, h) ← Text.splitOnce? 'x' text
      let w ← natOfText? Step.greatestCount (Text.trim w)
      let h ← natOfText? Step.greatestCount (Text.trim h)
      return (w, h)

/-- The selector of the target that something is dropped on. -/
def dropTarget (s : Step) : Except Failure String := do
  let v ← s.need (s.option? "target")
  match Decode.ofJson Locator.decode v with
  | .ok l => l.selector
  | .error e => .error (.form e.message)

/-- The name of the attribute that is asked for. -/
def attributeAsked (s : Step) : Except Failure String :=
  s.need ((s.optionText? "attribute").orElse fun _ => s.valueText?)

/-- The name of the attribute that is expected. -/
def attributeExpected (s : Step) : Except Failure String :=
  s.need ((s.optionText? "attribute").orElse fun _ => s.optionText? "name")

/-! ## §4. The action of a step. -/

/-- **The action of a step,** in a suite with a base address. -/
def ofStep (base : String) (k : Keyword) (s : Step) : Except Failure Action :=
  let url (t : String) : String := address base t
  match k with
  | .openBrowser => .ok (.openBrowser (s.valueText?.map url))
  | .closeBrowser => .ok .closeBrowser
  | .newPage | .openNewTab => .ok (.newPage (s.valueText?.map url))
  | .closePage | .closeTab => .ok (.closePage (s.valueNumber?.map Step.count))
  | .setViewportSize => do
    let (w, h) ← viewport s
    page "setViewportSize" [.obj [("width", Json.ofNat w), ("height", Json.ofNat h)]]
  | .screenshot => .ok (.screenshot (s.valueText?.getD s.id))
  | .goto => do
    let target ← s.need s.valueText?
    let wait : List (String × Json) := match s.option? "waitUntil" with
      | some v => [("waitUntil", v)]
      | none => []
    page "goto" [.str (url target), .obj (s.limitMembers ++ wait)]
  | .reload => page "reload" []
  | .goBack => page "goBack" []
  | .goForward => page "goForward" []
  | .waitForUrl => do
    let target ← s.need s.valueText?
    page "waitForURL" [.str target]
  | .waitForLoadState => page "waitForLoadState" [.str (s.valueText?.getD "load")]
  | .click => element s "click" []
  | .dblClick => element s "dblclick" []
  | .rightClick => elementWith s "click" [] [("button", .str "right")]
  | .fill => do
    let text ← s.need s.valueText?
    element s "fill" [.str text]
  | .typeText => do
    let text ← s.need s.valueText?
    elementWith s "pressSequentially" [.str text] (Step.countMember "delay" (s.optionNumber? "delay"))
  | .press => do
    let key ← s.need s.valueText?
    if s.locator.isSome then element s "press" [.str key] else return .onKeyboard "press" [.str key]
  | .clear => element s "clear" []
  | .check => element s "check" []
  | .uncheck => element s "uncheck" []
  | .selectOption => do
    let v ← s.need s.value
    element s "selectOption" [v]
  | .hover => element s "hover" []
  | .focus => element s "focus" []
  | .blur => element s "blur" []
  | .scrollIntoView => element s "scrollIntoViewIfNeeded" []
  | .dragAndDrop => do
    let target ← dropTarget s
    element s "dragTo" [locatorArgument target]
  | .uploadFile => do
    let files ← s.need s.value
    element s "setInputFiles" [files]
  | .tap => element s "tap" []
  | .waitForElement => elementWith s "waitFor" [] [("state", .str "visible")]
  | .waitForElementHidden => elementWith s "waitFor" [] [("state", .str "hidden")]
  | .waitForTimeout => do
    let ms ← s.need (s.valueNumber?.orElse fun _ => s.optionNumber? "timeout")
    return .pause (Step.count ms)
  | .getText => queryElement s "innerText" []
  | .getAttribute => do
    let name ← attributeAsked s
    queryElement s "getAttribute" [.str name]
  | .getTitle => .ok (.onPage true "title" [])
  | .getUrl => .ok (.onPage true "url" [])
  | .getValue => queryElement s "inputValue" []
  | .getCount => queryElement s "count" []
  | .assertVisible => expectElement s false "toBeVisible" []
  | .assertHidden => expectElement s false "toBeHidden" []
  | .assertText => do
    let text ← s.need s.valueText?
    expectElement s false "toHaveText" [.str text]
  | .assertContainsText => do
    let text ← s.need s.valueText?
    expectElement s false "toContainText" [.str text]
  | .assertValue => do
    let text ← s.need s.valueText?
    expectElement s false "toHaveValue" [.str text]
  | .assertAttribute => do
    let name ← attributeExpected s
    let text ← s.need s.valueText?
    expectElement s false "toHaveAttribute" [.str name, .str text]
  | .assertCount => do
    let x ← s.need s.valueNumber?
    expectElement s false "toHaveCount" [Json.ofNat (Step.count x)]
  | .assertUrl => do
    let target ← s.need s.valueText?
    return expectPage s "toHaveURL" (url target)
  | .assertTitle => do
    let title ← s.need s.valueText?
    return expectPage s "toHaveTitle" title
  | .assertEnabled => expectElement s false "toBeEnabled" []
  | .assertDisabled => expectElement s false "toBeDisabled" []
  | .assertChecked => expectElement s false "toBeChecked" []
  | .assertNotChecked => expectElement s true "toBeChecked" []
  | .assertFocused => expectElement s false "toBeFocused" []
  | .switchToPopup => .ok (.switchToPopup s.limitArgument)
  | .switchToTab => do
    let x ← s.need s.valueNumber?
    return .switchToTab (Step.count x)
  | .switchToMainTab => .ok .switchToMainTab
  | .tableGetCell | .tableClickCell | .tableAssertCell | .tableGetRowCount | .tableAssertRowCount
  | .tableGetColumn | .tableFindRow | .tableSortBy | .tableFilter | .tableAssertSorted => do
    let table ← s.selector
    let use ← Table.Use.ofStep k s
    return .useTable table use
  | .assertEquals | .assertNotEquals | .assertContains | .assertGreaterThan | .assertLessThan => do
    let (actual, expected) ← Comparison.operands s
    return .judge (Comparison.verdict k actual expected)
  | .acceptDialog => page "acceptNextDialog" (s.valueText?.map Json.str).toList
  | .dismissDialog => page "dismissNextDialog" []
  | .getAlertText | .switchToFrame => .ok (.refuse (.unimplemented k.word))
  | .customStep => do
    let call ← s.need s.customFunction
    return .customStep call
  | .customCode => .ok .customCode

end Action

end SuiteRunner

import SuiteRunner.Custom.Call
import SuiteRunner.PreProcess.Pipeline
import SuiteRunner.Retry
import SuiteRunner.Ui.Action

/-!
  SuiteRunner.Ui.Perform
  ────────────────────────────────
  **DOING WHAT A STEP SAYS.**

  Actions on pages and elements are calls to the browser of the session.  Opening a page or
  switching to one moves the cursor; closing one lets it fall back to the main page.
-/

namespace SuiteRunner

/-- How the steps of a run are carried out. -/
structure UiSetup where
  retry : RetryPolicy := .once
  /-- The directory for screenshots. -/
  screenshotDir : String := "test-results/screenshots"
  /-- The time limit of custom code in milliseconds. -/
  codeLimit : Nat := 30000
  custom : CustomCode := {}
  preProcess : PreProcessSetup := {}
  deriving Inhabited

namespace Action

/-- The page that an answer names. -/
def pageNamed (v : Json) : Except Failure String :=
  match v with
  | .str p => .ok p
  | v => .error (.driver ("expected a page handle, got " ++ v.compact))

/-- Go to an address, if there is one. -/
def visit : Option String → Task Session Unit
  | none => return ()
  | some url => do
    let _ ← Session.callPage "goto" [.str url]
    return ()

/-- Bring the active page to the front. -/
def bringToFront : Task Session Unit := do
  let _ ← Session.callPage "bringToFront" []
  return ()

/-- Open a page and make it the active one. -/
def openPage (url : Option String) : Task Session Unit := do
  let v ← Session.callContext "newPage" []
  let p ← Task.ofExcept (pageNamed v)
  modify (Session.switchTo p)
  visit url

/-- The page to close: the one at a position, or the active one. -/
def pageToClose (s : Session) : Option Nat → Option String
  | some i => s.pages[i]?
  | none => s.active

/-- Close a page; if the browser refuses, the session stays as it was. -/
def closePageAt (position : Option Nat) : Task Session Unit := do
  match pageToClose (← get) position with
  | none => throw .noActivePage
  | some p =>
    let _ ← Session.call ⟨.page p, "close", []⟩
    modify (Session.forget p)

/-- Switch to a popup that the page opens. -/
def toPopup (options : Json) : Task Session Unit := do
  let v ← Session.callPage "waitForPopup" [options]
  let p ← Task.ofExcept (pageNamed v)
  modify (Session.switchTo p)

/-- The item of a list at a position. -/
def tabAt (position : Nat) (v : Json) : Except Failure Json :=
  match (v.items?.getD [])[position]? with
  | some tab => .ok tab
  | none => .error (.driver ("no tab at index " ++ toString position))

/-- Switch to the tab at a position. -/
def toTab (position : Nat) : Task Session Unit := do
  let tabs ← Session.callContext "pages" []
  let tab ← Task.ofExcept (tabAt position tabs)
  let p ← Task.ofExcept (pageNamed tab)
  modify (Session.switchTo p)
  bringToFront

/-- Switch to the main page. -/
def toMainTab : Task Session Unit := do
  match (← get).mainPage? with
  | none => throw .noActivePage
  | some p =>
    modify (Session.switchTo p)
    bringToFront

/-- A task without an output. -/
def silent {σ : Type} (t : Task σ Unit) : Task σ (Option Json) := do
  t
  return none

/-- A task whose result is the output if one is wanted. -/
def withOutput {σ : Type} (output : Bool) (t : Task σ Json) : Task σ (Option Json) := do
  let v ← t
  return if output then some v else none

/-- An action that touches the session alone; custom code is left to the caller. -/
def performOnSession (setup : UiSetup) : Action → Task Session (Option Json)
  | .openBrowser url => silent do
    Session.open_
    visit url
  | .closeBrowser => silent Session.close
  | .newPage url => silent (openPage url)
  | .closePage position => silent (closePageAt position)
  | .screenshot name => do
    let _ ← Session.screenshot setup.screenshotDir name
    return none
  | .onPage output method args => withOutput output (Session.callPage method args)
  | .onElement output selector method args =>
    withOutput output (Session.callElement selector method args)
  | .onKeyboard method args => withOutput false (Session.callKeyboard method args)
  | .pause ms => silent (Task.ask (.pause ms))
  | .expect selector negated method args => silent (Session.expect selector negated method args)
  | .switchToPopup options => silent (toPopup options)
  | .switchToTab position => silent (toTab position)
  | .switchToMainTab => silent toMainTab
  | .useTable table use => use.perform table
  | .judge verdict => silent (Task.ofExcept verdict)
  | .refuse f => throw f
  | .customStep _ | .customCode => return none

/-- **Do what a step says;** the result is the output of its keyword. -/
def perform (setup : UiSetup) (s : Step) : Action → Task Stage (Option Json)
  | .customStep call => do
    let v ← setup.custom.callStep s call
    return some v
  | .customCode => do
    let v ← setup.custom.runPlugin setup.codeLimit s
    return some v
  | a => Stage.onSession (a.performOnSession setup)

end Action

end SuiteRunner

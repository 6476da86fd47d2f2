import SuiteRunner.Files.Path
import SuiteRunner.Outside.Request
import SuiteRunner.Report.Summary

/-!
  SuiteRunner.Browser.Session
  ────────────────────────────────
  **ONE BROWSER AND ITS PAGES.**

  A session starts a browser as soon as a call needs one.  It knows the pages of the browser and
  which of them is active; the first page is the main one.  A page that was closed is forgotten,
  and the main page takes its place if it was active.
-/

namespace SuiteRunner

/-- The state of a session. -/
structure Session where
  browser : Option Nat := none
  pages : List String := []
  active : Option String := none
  deriving DecidableEq, Repr, Inhabited

namespace Session

/-- The session without a browser. -/
def closed : Session := {}

/-- Whether there is a browser. -/
def isOpen (s : Session) : Bool := s.browser.isSome

/-- The first page. -/
def mainPage? (s : Session) : Option String := s.pages.head?

/-- Make a page the active one. -/
def switchTo (page : String) (s : Session) : Session :=
  { s with
    pages := if s.pages.contains page then s.pages else s.pages ++ [page]
    active := some page }

/-- Forget a page. -/
def forget (page : String) (s : Session) : Session :=
  let pages := s.pages.filter fun p => p != page
  { s with pages := pages, active := if s.active = some page then pages.head? else s.active }

/-- Start a browser unless there is one. -/
def open_ : Task Session Unit := do
  let s ← get
  if s.isOpen then return ()
  else
    let b ← Task.ofExcept (← Task.ask .createBrowser)
    let page ← Task.ofExcept (← Task.ask (.launchBrowser b))
    set ({ browser := some b, pages := [page], active := some page } : Session)

/-- Close the browser if there is one; the session is closed even if the browser objects. -/
def close : Task Session Unit := do
  let s ← get
  set closed
  match s.browser with
  | none => return ()
  | some b => Task.ofExcept (← Task.ask (.closeBrowser b))

/-- The active page, with a browser started for it. -/
def page : Task Session String := do
  open_
  match (← get).active with
  | some p => return p
  | none => throw .noActivePage

/-- Make a call as it is. -/
def call (c : BrowserCall) : Task Session Json := do
  match (← get).browser with
  | some b => Task.ofExcept (← Task.ask (.callBrowser b c))
  | none => throw .noActivePage

/-- Call a method of the browser's context. -/
def callContext (method : String) (args : List Json) : Task Session Json := do
  open_
  call ⟨.context, method, args⟩

/-- Call a method of the active page. -/
def callPage (method : String) (args : List Json) : Task Session Json := do
  let p ← page
  call ⟨.page p, method, args⟩

/-- Call a method of an element on the active page. -/
def callElement (selector method : String) (args : List Json) : Task Session Json := do
  let p ← page
  call ⟨.locator p selector, method, args⟩

/-- Call a method of the active page's keyboard. -/
def callKeyboard (method : String) (args : List Json) : Task Session Json := do
  let p ← page
  call ⟨.keyboard p, method, args⟩

/-- Expect something of an element, or of the active page. -/
def expect (selector : Option String) (negated : Bool) (method : String) (args : List Json) :
    Task Session Unit := do
  let p ← page
  let _ ← call ⟨.expectation p selector negated, method, args⟩
  return ()

/-- The file for a screenshot with a name. -/
def screenshotPath (dir name : String) : String := Path.join dir (fileStem name ++ ".png")

/-- Take a picture of the whole active page; the result is its file. -/
def screenshot (dir name : String) : Task Session String := do
  match (← Task.ask (.makeDirectories dir)) with
  | .error e => throw (.io e)
  | .ok () =>
    let path := screenshotPath dir name
    let _ ← callPage "screenshot" [.obj [("path", .str path), ("fullPage", .bool true)]]
    return path

end Session

end SuiteRunner

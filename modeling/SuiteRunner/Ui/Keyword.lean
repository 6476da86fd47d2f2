import SuiteRunner.Error

/-!
  SuiteRunner.Ui.Keyword
  ────────────────────────────────
  **THE CLOSED SET OF STEP KEYWORDS.**

  A step names what it does by a keyword.  The set is closed: `Keyword.named` lists every keyword
  with its word, a few have a second spelling, and any other word is refused.
-/

namespace SuiteRunner

/-- What a step of a browser test does. -/
inductive Keyword where
  -- Browser and page control
  | openBrowser | closeBrowser | newPage | closePage | setViewportSize | screenshot
  -- Navigation
  | goto | reload | goBack | goForward | waitForUrl | waitForLoadState
  -- Element actions
  | click | dblClick | rightClick | fill | typeText | press | clear | check | uncheck
  | selectOption | hover | focus | blur | scrollIntoView | dragAndDrop | uploadFile | tap
  -- Waits
  | waitForElement | waitForElementHidden | waitForTimeout
  -- Extraction
  | getText | getAttribute | getTitle | getUrl | getValue | getCount
  -- Element and page assertions
  | assertVisible | assertHidden | assertText | assertContainsText | assertValue
  | assertAttribute | assertCount | assertUrl | assertTitle | assertEnabled | assertDisabled
  | assertChecked | assertNotChecked | assertFocused
  -- Tabs and popups
  | switchToPopup | switchToTab | switchToMainTab | closeTab | openNewTab
  -- Tables
  | tableGetCell | tableClickCell | tableAssertCell | tableGetRowCount | tableAssertRowCount
  | tableGetColumn | tableFindRow | tableSortBy | tableFilter | tableAssertSorted
  -- Generic value assertions
  | assertEquals | assertNotEquals | assertContains | assertGreaterThan | assertLessThan
  -- Dialogs
  | acceptDialog | dismissDialog | getAlertText | switchToFrame
  -- Extension points
  | customStep | customCode
  deriving DecidableEq, Repr, Inhabited

namespace Keyword

/-- Every keyword with its word. -/
def named : List (String × Keyword) := [
  ("openBrowser", .openBrowser), ("closeBrowser", .closeBrowser), ("newPage", .newPage),
  ("closePage", .closePage), ("setViewportSize", .setViewportSize), ("screenshot", .screenshot),
  ("goto", .goto), ("reload", .reload), ("goBack", .goBack), ("goForward", .goForward),
  ("waitForUrl", .waitForUrl), ("waitForLoadState", .waitForLoadState), ("click", .click),
  ("dblClick", .dblClick), ("rightClick", .rightClick), ("fill", .fill), ("type", .typeText),
  ("press", .press), ("clear", .clear), ("check", .check), ("uncheck", .uncheck),
  ("selectOption", .selectOption), ("hover", .hover), ("focus", .focus), ("blur", .blur),
  ("scrollIntoView", .scrollIntoView), ("dragAndDrop", .dragAndDrop),
  ("uploadFile", .uploadFile), ("tap", .tap), ("waitForElement", .waitForElement),
  ("waitForElementHidden", .waitForElementHidden), ("waitForTimeout", .waitForTimeout),
  ("getText", .getText), ("getAttribute", .getAttribute), ("getTitle", .getTitle),
  ("getUrl", .getUrl), ("getValue", .getValue), ("getCount", .getCount),
  ("assertVisible", .assertVisible), ("assertHidden", .assertHidden),
  ("assertText", .assertText), ("assertContainsText", .assertContainsText),
  ("assertValue", .assertValue), ("assertAttribute", .assertAttribute),
  ("assertCount", .assertCount), ("assertUrl", .assertUrl), ("assertTitle", .assertTitle),
  ("assertEnabled", .assertEnabled), ("assertDisabled", .assertDisabled),
  ("assertChecked", .assertChecked), ("assertNotChecked", .assertNotChecked),
  ("assertFocused", .assertFocused), ("switchToPopup", .switchToPopup),
  ("switchToTab", .switchToTab), ("switchToMainTab", .switchToMainTab), ("closeTab", .closeTab),
  ("openNewTab", .openNewTab), ("tableGetCell", .tableGetCell),
  ("tableClickCell", .tableClickCell), ("tableAssertCell", .tableAssertCell),
  ("tableGetRowCount", .tableGetRowCount), ("tableAssertRowCount", .tableAssertRowCount),
  ("tableGetColumn", .tableGetColumn), ("tableFindRow", .tableFindRow),
  ("tableSortBy", .tableSortBy), ("tableFilter", .tableFilter),
  ("tableAssertSorted", .tableAssertSorted), ("assertEquals", .assertEquals),
  ("assertNotEquals", .assertNotEquals), ("assertContains", .assertContains),
  ("assertGreaterThan", .assertGreaterThan), ("assertLessThan", .assertLessThan),
  ("acceptDialog", .acceptDialog), ("dismissDialog", .dismissDialog),
  ("getAlertText", .getAlertText), ("switchToFrame", .switchToFrame),
  ("customStep", .customStep), ("customCode", .customCode)]

/-- Second spellings. -/
def aliases : List (String × Keyword) := [
  ("waitForURL", .waitForUrl),
  ("getURL", .getUrl),
  ("assertURL", .assertUrl)]

/-- The keyword of a word. -/
def ofWord? (s : String) : Option Keyword := (named ++ aliases).lookup s

/-- The keyword of a word, or why there is none. -/
def ofWord (s : String) : Except Failure Keyword :=
  match ofWord? s with
  | some k => .ok k
  | none => .error (.unknownKeyword s)

/-- The word of a keyword. -/
def word (k : Keyword) : String :=
  match named.find? (fun e => e.2 == k) with
  | some e => e.1
  | none => ""

/-- The marker by which a store entry asks for the output of a keyword. -/
def marker? : Keyword → Option String
  | .getText | .tableGetCell => some "$text"
  | .getAttribute => some "$attribute"
  | .getTitle => some "$title"
  | .getUrl => some "$url"
  | .getValue => some "$value"
  | .getCount | .tableGetRowCount => some "$count"
  | .tableGetColumn => some "$values"
  | .tableFindRow => some "$row"
  | .tableFilter => some "$rows"
  | .customStep | .customCode => some "$result"
  | _ => none

/-- Whether a step with this keyword counts as an assertion. -/
def isAssertion : Keyword → Bool
  | .assertVisible | .assertHidden | .assertText | .assertContainsText | .assertValue
  | .assertAttribute | .assertCount | .assertUrl | .assertTitle | .assertEnabled
  | .assertDisabled | .assertChecked | .assertNotChecked | .assertFocused
  | .tableAssertCell | .tableAssertRowCount | .tableAssertSorted
  | .assertEquals | .assertNotEquals | .assertContains | .assertGreaterThan
  | .assertLessThan => true
  | _ => false

end Keyword

end SuiteRunner

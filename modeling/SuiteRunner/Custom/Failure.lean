import SuiteRunner.Error
import SuiteRunner.Text.LetterCase
import SuiteRunner.Text.Split

/-!
  SuiteRunner.Custom.Failure
  ────────────────────────────────
  **FAILURES OF CUSTOM CODE, SORTED.**

  What custom code reports is a timeout, a fault of a locator, a failed assertion or something
  else.  Failures that say so themselves are believed; the text of any other one is searched for
  words that tell.
-/

namespace SuiteRunner

/-- Words that tell of a timeout. -/
def timeoutWords : List String := ["timeout", "timed out"]

/-- Words that tell of a locator. -/
def locatorWords : List String := ["locator", "selector", "element", "strict mode violation"]

/-- Words that tell of an assertion. -/
def assertionWords : List String := ["expect", "assert"]

/-- Whether one of some words stands in a text. -/
def mentions (text : String) (words : List String) : Bool := words.any fun w => Text.contains text w

/-- A failure by the words in its text. -/
def failureByWords (message : String) : Failure :=
  let lower := LetterCase.toLower message
  if mentions lower timeoutWords then .customTimeout message
  else if mentions lower locatorWords then .customLocator message
  else if mentions lower assertionWords then .customAssertion message
  else .customCode message

/-- **A failure as one of custom code.** -/
def Failure.ofCustomCode : Failure → Failure
  | .customTimeout r => .customTimeout r
  | .customLocator r => .customLocator r
  | .customAssertion r => .customAssertion r
  | .customCode r => .customCode r
  | .timeout r => .customTimeout r
  | .assertionFailed r => .customAssertion r
  | f => failureByWords f.message

end SuiteRunner

import SuiteRunner.Variables.Scope

/-!
  SuiteRunner.Error
  ────────────────────────────────
  **WHY A RUN, A STEP OR A REQUEST FAILS.**

  One constructor per cause.  `message` is the one place that words them.
-/

namespace SuiteRunner

/-- The causes of failure. -/
inductive Failure where
  | suiteLoad (reason : String)
  | suiteNotFound (address : String)
  | targetFormat (text : String)
  | caseNotFound (suite testCase : String)
  | dataNotFound (testCase data : String)
  | unsupportedTarget (reason : String)
  | request (reason : String)
  | assertionFailed (reason : String)
  | missingLocator (step : String)
  | missingValue (step : String)
  | unknownKeyword (name : String)
  | unknownStrategy (name : String)
  | unimplemented (name : String)
  | customStepNotFound (name : String)
  | customTimeout (reason : String)
  | customLocator (reason : String)
  | customAssertion (reason : String)
  | customCode (reason : String)
  | table (reason : String)
  | preProcess (function reason : String)
  | databaseConfig (reason : String)
  | databaseQuery (reason : String)
  | driver (reason : String)
  | browserToolMissing
  | noActivePage
  | timeout (what : String)
  | config (reason : String)
  | form (reason : String)
  | io (reason : String)
  | cipher (reason : String)
  | variableConflict (name : String) (scope : Scope) (suggestion : String)
  | missingOwner (name : String)
  | invalidConfig (reason : String)
  | storage (reason : String)
  deriving DecidableEq, Repr, Inhabited

/-- The text of a failure. -/
def Failure.message : Failure → String
  | .suiteLoad r => "Suite load error: " ++ r
  | .suiteNotFound a => "Suite not found: " ++ a
  | .targetFormat t =>
    "Invalid target format: '" ++ t
      ++ "' (expected 'suiteId:suiteName[ > testCaseId:testCaseName[ > index:testDataName]]')"
  | .caseNotFound s c => "Test case not found in suite '" ++ s ++ "': " ++ c
  | .dataNotFound c d => "Test data not found in test case '" ++ c ++ "': " ++ d
  | .unsupportedTarget r => "Target not supported: " ++ r
  | .request r => "Request failed: " ++ r
  | .assertionFailed r => "Assertion failed: " ++ r
  | .missingLocator s => "Step '" ++ s ++ "' requires a locator"
  | .missingValue s => "Step '" ++ s ++ "' requires a value"
  | .unknownKeyword n => "Unknown keyword: " ++ n
  | .unknownStrategy n => "Unknown locator strategy: " ++ n
  | .unimplemented n => "Keyword '" ++ n ++ "' is not implemented"
  | .customStepNotFound n => "Custom function not found: " ++ n
  | .customTimeout r => "Custom code timed out: " ++ r
  | .customLocator r => "Custom code locator error: " ++ r
  | .customAssertion r => "Custom code assertion failed: " ++ r
  | .customCode r => "Custom code error: " ++ r
  | .table r => "Table error: " ++ r
  | .preProcess f r => "Pre-processor '" ++ f ++ "' failed: " ++ r
  | .databaseConfig r => "Database configuration error: " ++ r
  | .databaseQuery r => "Database query failed: " ++ r
  | .driver r => "Driver error: " ++ r
  | .browserToolMissing =>
    "Playwright not found. Install with: npm i playwright && npx playwright install"
  | .noActivePage => "No active page; run 'openBrowser' first"
  | .timeout w => "Timeout waiting for: " ++ w
  | .config r => "Invalid configuration: " ++ r
  | .form r => "JSON error: " ++ r
  | .io r => "IO error: " ++ r
  | .cipher r => "Crypto error: " ++ r
  | .variableConflict n s g =>
    s.word ++ " variable '" ++ n ++ "' already exists, try '" ++ g ++ "'"
  | .missingOwner n => "Local variable '" ++ n ++ "' requires both a suite id and a test case id"
  | .invalidConfig r => "Invalid configuration: " ++ r
  | .storage r => "Database error: " ++ r

end SuiteRunner

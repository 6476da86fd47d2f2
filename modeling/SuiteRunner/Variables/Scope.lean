/-!
  SuiteRunner.Variables.Scope
  ────────────────────────────────
  **WHERE A VARIABLE LIVES.**

  A global variable belongs to the whole run.  A local one belongs to an owner, which is a test
  case in a suite.
-/

namespace SuiteRunner

/-- The two scopes. -/
inductive Scope where
  | global
  | perCase
  deriving DecidableEq, Repr, Inhabited

/-- The word for a scope. -/
def Scope.word : Scope → String
  | .global => "global"
  | .perCase => "local"

/-- The scope a word stands for. -/
def Scope.ofWord? (s : String) : Option Scope :=
  if s = "global" then some .global
  else if s = "local" then some .perCase
  else none

/-- A test case in a suite, by the ids of both. -/
structure Owner where
  suite : String
  testCase : String
  deriving DecidableEq, Repr, Inhabited

end SuiteRunner

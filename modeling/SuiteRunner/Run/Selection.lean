import SuiteRunner.Error
import SuiteRunner.Suite.Basic

/-!
  SuiteRunner.Run.Selection
  ────────────────────────────────
  **WHAT A TARGET CHOOSES IN A SUITE.**

  A case is the first one that has the id or the name.  A data item stands at the position that is
  given; if the case has no such position, it is the first one that has the name.
-/

namespace SuiteRunner

/-- The case of a suite that is meant by an id or a name. -/
def Suite.caseMeant (s : Suite) (id name : String) : Except Failure TestCase :=
  match s.cases.find? fun c => c.isIdentifiedBy id name with
  | some c => .ok c
  | none => .error (.caseNotFound s.name (id ++ ":" ++ name))

/-- The first position of an item with a name; no item has the empty name. -/
def TestCase.positionOfName? (c : TestCase) (name : String) : Option Nat :=
  if name.isEmpty then none else c.data.findIdx? fun d => d.name == name

/-- **The position of the data item that is meant by a position or a name.** -/
def TestCase.positionMeant (c : TestCase) (index : Nat) (name : String) : Except Failure Nat :=
  if index < c.data.length then .ok index
  else
    match c.positionOfName? name with
    | some i => .ok i
    | none => .error (.dataNotFound c.name (toString index ++ ":" ++ name))

/-- Data items are in API suites only. -/
def Suite.refuseData (s : Suite) : Except Failure Unit :=
  match s.kind with
  | .api => .ok ()
  | .ui =>
    .error (.unsupportedTarget
      ("test data targets apply to API suites only; '" ++ s.name ++ "' is a UI suite"))

end SuiteRunner

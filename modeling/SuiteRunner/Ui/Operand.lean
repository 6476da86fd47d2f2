import SuiteRunner.Json.Comparison
import SuiteRunner.Locator.Selector
import SuiteRunner.Suite.Basic

/-!
  SuiteRunner.Ui.Operand
  ────────────────────────────────
  **WHAT A KEYWORD TAKES FROM ITS STEP.**

  An operand is the step's locator, its value or one of its options.  A keyword that needs an
  operand fails when it is not there, and so it does when a number is needed and there is none.
-/

namespace SuiteRunner.Step

/-- The greatest natural number that a number in a step can become. -/
def greatestCount : Nat := 0xffffffffffffffff

/-- A number as a count: toward zero, not below zero, not above the greatest count. -/
def count (x : Binary64) : Nat := x.toNatSaturating greatestCount

/-- The failure for an operand that is not there. -/
def missing (s : Step) : Failure := .missingValue s.id

/-- An operand that must be there. -/
def need {α : Type} (s : Step) : Option α → Except Failure α
  | some a => .ok a
  | none => .error s.missing

/-- The selector of the step's locator. -/
def selector (s : Step) : Except Failure String :=
  match s.locator with
  | none => .error (.missingLocator s.id)
  | some l => l.selector

/-- The text of the value. -/
def valueText? (s : Step) : Option String := s.value.map valueText

/-- The number of the value. -/
def valueNumber? (s : Step) : Option Binary64 := s.value.bind Json.asNumber?

/-- An option. -/
def option? (s : Step) (key : String) : Option Json := Json.lookup? key s.options

/-- The text of an option. -/
def optionText? (s : Step) (key : String) : Option String := (s.option? key).map valueText

/-- The number of an option. -/
def optionNumber? (s : Step) (key : String) : Option Binary64 := (s.option? key).bind Json.asNumber?

/-- The member that a count gives to an options argument. -/
def countMember (name : String) : Option Binary64 → List (String × Json)
  | none => []
  | some x => [(name, Json.ofNat (count x))]

/-- The time limit of the step as the member of an options argument. -/
def limitMembers (s : Step) : List (String × Json) := countMember "timeout" (s.optionNumber? "timeout")

/-- The options argument with the time limit alone. -/
def limitArgument (s : Step) : Json := .obj s.limitMembers

end SuiteRunner.Step

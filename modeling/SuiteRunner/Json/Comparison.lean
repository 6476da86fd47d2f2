import SuiteRunner.Json.Value
import SuiteRunner.Number.Reading
import SuiteRunner.Text.Blank

/-!
  SuiteRunner.Json.Comparison
  ────────────────────────────────
  **COMPARING VALUES FOUND WITH VALUES EXPECTED.**

  Two numbers are compared by value, whether they were written as integers or not; anything else
  is compared as documents are.  A text that reads as a number counts as one where a number is
  asked for.
-/

namespace SuiteRunner.Json

/-- Whether two values are equal, two numbers by value. -/
def equalValues : Json → Json → Bool
  | .num a, .num b => a.toDouble.equal b.toDouble
  | a, b => a.same b

/-- The number that a value stands for: a number, or a text that reads as one. -/
def asNumber? : Json → Option Binary64
  | .num n => some n.toDouble
  | .str s => Binary64.ofText? (Text.trim s)
  | _ => none

end SuiteRunner.Json

import SuiteRunner.Outside.Request

/-!
  SuiteRunner.Outside.Environment
  ────────────────────────────────
  **VARIABLES OF THE ENVIRONMENT.**

  A program looks up the variables that it may need, all of them and in order, and decides
  afterwards.
-/

namespace SuiteRunner

/-- Variables of the environment that were looked up. -/
abbrev Surroundings := List (String × Option String)

/-- Look up variables. -/
def lookUp : List String → Errand Surroundings
  | [] => return []
  | name :: rest => do
    let value : Option String ← Program.query (S := outside) (.variable name)
    let more ← lookUp rest
    return (name, value) :: more

/-- The value of a variable that was looked up. -/
def Surroundings.value (known : Surroundings) (name : String) : Option String :=
  (known.lookup name).join

end SuiteRunner

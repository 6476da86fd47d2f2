import SuiteRunner.Browser.Session
import SuiteRunner.Suite.Basic
import SuiteRunner.Variables.Store

/-!
  SuiteRunner.Ui.Stage
  ────────────────────────────────
  **WHAT THE STEPS OF A TEST CASE SHARE.**

  The steps of a case share one browser session and the variables of the run.
-/

namespace SuiteRunner

/-- The session of a test case and the variables of the run. -/
structure Stage where
  session : Session
  store : Store
  deriving Inhabited

namespace Stage

/-- A task on the session. -/
def onSession {α : Type} (t : Task Session α) : Task Stage α :=
  t.focus Stage.session fun s g => { g with session := s }

/-- A task on the variables. -/
def onStore {α : Type} (t : Task Store α) : Task Stage α :=
  t.focus Stage.store fun s g => { g with store := s }

end Stage

/-- What is registered by name.  A registered step and a method of a page object see the step that
calls them and take arguments; a page object is made for a page.  A plugin sees its step and how
many milliseconds it has; without a result it ran out of them. -/
structure CustomCode where
  steps : String → Option (Step → List Json → Task Stage Json) := fun _ => none
  pageObjects : String → Option (String → String → Step → List Json → Task Stage Json) := fun _ => none
  plugins : String → Option (Nat → Step → Task Stage (Option Json)) := fun _ => none

instance : Inhabited CustomCode := ⟨{}⟩

end SuiteRunner

import SuiteRunner.Ui.Perform

/-!
  SuiteRunner.Rehearsal.Custom
  ────────────────────────────────
  **SCRIPTED CUSTOM CODE.**

  A behaviour waits, calls elements of the active page, and then fails, gives back what it was
  given or has a fixed result.
-/

namespace SuiteRunner.Rehearsal

/-- A call of a method of an element. -/
structure ElementCall where
  selector : String
  method : String
  args : List Json

/-- What a piece of custom code does. -/
structure Behaviour where
  wait : Nat := 0
  calls : List ElementCall := []
  failure : Option Failure := none
  echo : Bool := false
  result : Json := .null

/-- Custom code by names. -/
structure Registered where
  steps : List (String × Behaviour) := []
  plugins : List (String × Behaviour) := []
  pageObjects : List (String × List (String × Behaviour)) := []

namespace Behaviour

/-- Make calls in order. -/
def callAll : List ElementCall → Task Session Unit
  | [] => return ()
  | c :: rest => do
    let _ ← Session.callElement c.selector c.method c.args
    callAll rest

/-- What a behaviour does after it has waited. -/
def act (b : Behaviour) (input : Json) : Task Stage Json := do
  Stage.onSession (callAll b.calls)
  match b.failure with
  | some f => throw f
  | none => return if b.echo then input else b.result

/-- Wait, unless there is nothing to wait for. -/
def pause (ms : Nat) : Task Stage Unit :=
  if ms = 0 then return () else Task.ask (.pause ms)

/-- A behaviour without a time limit. -/
def run (b : Behaviour) (input : Json) : Task Stage Json := do
  pause b.wait
  b.act input

/-- A behaviour with a time limit, which it can exceed only by waiting. -/
def runWithin (limit : Nat) (b : Behaviour) (input : Json) : Task Stage (Option Json) := do
  if b.wait > limit then
    pause limit
    return none
  else
    let v ← b.run input
    return some v

end Behaviour

/-- The value of a step as it is given to a plugin. -/
def pluginInput (s : Step) : Json :=
  .obj [("step", .str s.id), ("value", s.value.getD .null), ("options", .obj s.options)]

/-- **Custom code that does what is scripted.** -/
def Registered.code (r : Registered) : CustomCode where
  steps name := (r.steps.lookup name).map fun b _ args => b.run (.obj [("args", .arr args)])
  plugins name := (r.plugins.lookup name).map fun b limit s => b.runWithin limit (pluginInput s)
  pageObjects cls := (r.pageObjects.lookup cls).map fun methods page method _ args =>
    match methods.lookup method with
    | some b => b.run (.obj [("args", .arr args), ("page", .str page)])
    | none => throw (.customStepNotFound (cls ++ "." ++ method))

end SuiteRunner.Rehearsal

import SuiteRunner.Custom.Failure
import SuiteRunner.Ui.Stage

/-!
  SuiteRunner.Custom.Call
  ────────────────────────────────
  **CALLING WHAT IS REGISTERED.**

  A name is that of a registered step, or else a class of page objects, a dot and a method; the
  object is made for the active page.  A plugin is found by the id of its step or by the option
  `plugin`, and its failures are sorted.
-/

namespace SuiteRunner.CustomCode

/-- Call a registered step or a method of a page object. -/
def callStep (c : CustomCode) (s : Step) (call : CustomCall) : Task Stage Json :=
  match c.steps call.function with
  | some run => run s call.args
  | none =>
    match Text.splitOnce? '.' call.function with
    | none => throw (.customStepNotFound call.function)
    | some (cls, method) =>
      match c.pageObjects cls with
      | none => throw (.customStepNotFound call.function)
      | some make => do
        let page ← Stage.onSession Session.page
        make page method s call.args

/-- The plugin of a step. -/
def pluginOf? (c : CustomCode) (s : Step) : Option (Nat → Step → Task Stage (Option Json)) :=
  (c.plugins s.id).orElse fun _ =>
    ((Json.lookup? "plugin" s.options).bind Json.text?).bind c.plugins

/-- Run the plugin of a step, with a time limit in milliseconds. -/
def runPlugin (c : CustomCode) (limit : Nat) (s : Step) : Task Stage Json :=
  match c.pluginOf? s with
  | none => throw (.customStepNotFound ("customCode plugin for step '" ++ s.id ++ "'"))
  | some run => do
    match ← (run limit s).mapFailure Failure.ofCustomCode with
    | some v => return v
    | none =>
      throw (.customTimeout ("step '" ++ s.id ++ "' did not finish within " ++ toString limit ++ "ms"))

end SuiteRunner.CustomCode

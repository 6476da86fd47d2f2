import SuiteRunner.PreProcess.Function

/-!
  SuiteRunner.PreProcess.Pipeline
  ────────────────────────────────
  **STEPS BEFORE A REQUEST OR A STEP, ONE AFTER ANOTHER.**

  The arguments of each step are filled in the variables that the steps before it left.  Its output
  goes into variables: parts of it by `mapTo`, else all members of an object, else the whole under
  one name.  The first step that fails ends the list.
-/

namespace SuiteRunner

namespace PreProcess

/-! ## §1. What a step writes. -/

/-- The name that takes a whole output. -/
def outputName (step : PreProcessStep) : String := step.var.getD step.function

/-- **The variables that a step writes for an output,** in order. -/
def assignments (step : PreProcessStep) (output : Json) : List (String × String) :=
  match step.mapTo, step.var, output with
  | some parts, _, _ =>
    parts.entries.map fun (key, name) => (name, ((output.member? key).map valueText).getD "")
  | none, none, .obj members => members.map fun (name, v) => (name, valueText v)
  | none, _, output => [(outputName step, valueText output)]

/-- Write variables of one scope. -/
def writeAll (o : Owner) (scope : Scope) (pairs : List (String × String)) (s : Store) : Store :=
  pairs.foldl (fun s (name, value) => s.set o scope name value) s

/-- The store after the output of a step is written. -/
def writeOutput (o : Owner) (step : PreProcessStep) (output : Json) (s : Store) : Store :=
  writeAll o (step.scope.getD .global) (assignments step output) s

/-! ## §2. Running steps. -/

/-- The texts of arguments, filled one after another. -/
def fillArguments (o : Owner) : List Json → Store → List String × Store
  | [], s => ([], s)
  | a :: rest, s =>
    let (t, s) := s.inject o (valueText a)
    let (ts, s) := fillArguments o rest s
    (t :: ts, s)

/-- The failure of a step: it names the function, unless the failure is of a kind that says enough. -/
def stepFailure (function : String) : Failure → Failure
  | .preProcess f r => .preProcess f r
  | .databaseConfig r => .databaseConfig r
  | e => .preProcess function e.message

/-- The output of a step. -/
def evaluate (setup : PreProcessSetup) (o : Owner) (step : PreProcessStep) : Task Store Json := do
  let args ← Task.update (fillArguments o step.args)
  (output setup step.function args).mapFailure (stepFailure step.function)

/-- Run one step. -/
def runStep (setup : PreProcessSetup) (o : Owner) (step : PreProcessStep) : Task Store Unit := do
  let out ← evaluate setup o step
  modify (writeOutput o step out)

/-- **Run steps in order,** up to the first that fails. -/
def runAll (setup : PreProcessSetup) (o : Owner) : List PreProcessStep → Task Store Unit
  | [] => return ()
  | step :: rest => do
    runStep setup o step
    runAll setup o rest

end PreProcess

end SuiteRunner

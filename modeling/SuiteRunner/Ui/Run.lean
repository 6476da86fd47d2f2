import SuiteRunner.Custom.ResultPath
import SuiteRunner.Ui.Perform

/-!
  SuiteRunner.Ui.Run
  ────────────────────────────────
  **RUNNING THE STEPS OF A TEST CASE.**

  Steps run in order in one session.  A step that is not enabled is skipped, and so is a step
  marked for it as soon as one step has failed.  Any other step is tried as often as the policy
  allows, and only its last failure is reported, with a picture of the page if one can be taken.
  At the end the browser is closed.
-/

namespace SuiteRunner

/-! ## §1. Filling a step. -/

namespace Step

/-- The members of an object with the placeholders in their values filled. -/
def fillValues (o : Owner) : List (String × Json) → Store → List (String × Json) × Store
  | [], s => ([], s)
  | (k, v) :: rest, s =>
    let (v, s) := Store.injectJson o v s
    let (ms, s) := fillValues o rest s
    ((k, v) :: ms, s)

/-- The locator with the placeholders in its texts filled. -/
def fillLocator (o : Owner) (l : Option Locator) (s : Store) :
    Except Failure (Option Locator) × Store :=
  match l with
  | none => (.ok none, s)
  | some l =>
    let (v, s) := Store.injectJson o l.toJson s
    match Decode.ofJson Locator.decode v with
    | .ok l => (.ok (some l), s)
    | .error e => (.error (.form e.message), s)

/-- The call of custom code with the placeholders in its arguments filled. -/
def fillCall (o : Owner) (c : Option CustomCall) (s : Store) : Option CustomCall × Store :=
  match c with
  | none => (none, s)
  | some c =>
    let (args, s) := Store.injectItems o c.args s
    (some { c with args := args }, s)

/-- The value with its placeholders filled. -/
def fillValue (o : Owner) (v : Option Json) (s : Store) : Option Json × Store :=
  match v with
  | none => (none, s)
  | some v =>
    let (v, s) := Store.injectJson o v s
    (some v, s)

/-- **A step with its placeholders filled:** the value, the options, the locator and the arguments
of custom code, in this order. -/
def fill (o : Owner) (step : Step) (s : Store) : Except Failure Step × Store :=
  let (value, s) := fillValue o step.value s
  let (options, s) := fillValues o step.options s
  match fillLocator o step.locator s with
  | (.error f, s) => (.error f, s)
  | (.ok locator, s) =>
    let (call, s) := fillCall o step.customFunction s
    (.ok { step with value := value, options := options, locator := locator,
                     customFunction := call }, s)

end Step

/-! ## §2. Outputs. -/

/-- The marker of keywords whose output has parts. -/
def resultMarker : String := "$result"

/-- The path that a source names in a result. -/
def resultPathOf (source : String) : String := (Text.dropFront? source (resultMarker ++ ".")).getD source

/-- The part of an output that a source asks for. -/
def extract? (marker : Option String) (source : String) (output : Json) : Option Json :=
  if marker = some source then some output
  else if marker = some resultMarker then
    let path := resultPathOf source
    if Text.startsWith path "$" then none else resultAt? output path
  else none

/-- Write the variables that ask for a part of an output. -/
def storeParts (o : Owner) (marker : Option String) (output : Json) (scope : Scope) :
    List (String × String) → Store → Store
  | [], s => s
  | (name, source) :: rest, s =>
    let s := match extract? marker source output with
      | some v => s.set o scope name (valueText v)
      | none => s
    storeParts o marker output scope rest s

/-- Write the variables of a step for its output: global ones first, then local ones. -/
def storeOutput (o : Owner) (k : Keyword) (step : Step) (output : Json) (s : Store) : Store :=
  let s := storeParts o k.marker? output .global step.store.entries s
  storeParts o k.marker? output .perCase step.localStore.entries s

namespace Ui

/-! ## §3. One step. -/

/-- One attempt at a step. -/
def attempt (setup : UiSetup) (base : String) (o : Owner) (step : Step) : Task Stage Unit := do
  Stage.onStore (PreProcess.runAll setup.preProcess o step.preProcess)
  let k ← Task.ofExcept (Keyword.ofWord step.keyword)
  let filled ← Stage.onStore (Task.update (step.fill o))
  let filled ← Task.ofExcept filled
  let action ← Task.ofExcept (Action.ofStep base k filled)
  match ← action.perform setup filled with
  | some output => Stage.onStore (modify (storeOutput o k filled output))
  | none => return ()

/-- Attempts at a step, with pauses between them, until one succeeds or none is left; `n` counts
those that were made and `left` those that may follow the next one. -/
def attempts (setup : UiSetup) (once : Task Stage Unit) : Nat → Nat → Task Stage Unit
  | _, 0 => once
  | n, left + 1 => do
    match ← once.result with
    | .ok () => return ()
    | .error _ =>
      Task.ask (.pause (setup.retry.delayAfter (n + 1)))
      attempts setup once (n + 1) left

/-- The entry of a step before it runs. -/
def newEntry (suite : Suite) (c : TestCase) (index : Nat) (step : Step) : Entry :=
  { suiteId := suite.id, suiteName := suite.name, caseId := c.id, caseName := c.name,
    kind := .step, index := index,
    name := step.id ++ " (" ++ step.description.getD step.keyword ++ ")" }

/-- The entry of a step that is not run. -/
def skip (e : Entry) (reason : String) : Entry := { e with status := .skipped, error := some reason }

/-- Whether a step counts as one assertion. -/
def countsAsAssertion (step : Step) : Bool :=
  ((Keyword.ofWord? step.keyword).map Keyword.isAssertion) == some true

/-- The entry of a step that succeeded. -/
def passed (e : Entry) (step : Step) : Entry :=
  { e with status := .pass, assertionsPassed := if countsAsAssertion step then 1 else 0 }

/-- The entry of a step that failed. -/
def failed (e : Entry) (step : Step) (f : Failure) : Entry :=
  { e with status := .fail, error := some f.message,
           assertionsFailed := if countsAsAssertion step then 1 else 0 }

/-- The name of the picture of a failure. -/
def failureName (c : TestCase) (step : Step) : String := c.id ++ "-" ++ step.id ++ "-failure"

/-- The picture of a failure, if there is a browser and it can be taken. -/
def failurePicture (setup : UiSetup) (name : String) : Task Stage (Option String) := do
  if (← get).session.isOpen then
    match ← (Stage.onSession (Session.screenshot setup.screenshotDir name)).result with
    | .ok path => return some path
    | .error _ => return none
  else return none

/-- The entry of a step that is run. -/
def runStep (setup : UiSetup) (suite : Suite) (c : TestCase) (index : Nat) (step : Step) :
    Task Stage Entry := do
  let e := newEntry suite c index step
  let started : Int ← Task.ask .clock
  let once := attempt setup suite.baseUrl ⟨suite.id, c.id⟩ step
  let r ← (attempts setup once 0 (setup.retry.attempts - 1)).result
  let finished : Int ← Task.ask .clock
  let e := { e with duration := (finished - started).toNat }
  match r with
  | .ok () => return passed e step
  | .error f =>
    let picture ← failurePicture setup (failureName c step)
    return { failed e step f with screenshot := picture }

/-! ## §4. Cases and suites. -/

/-- The entry of a step, where `anyFailed` tells whether an earlier one failed. -/
def stepEntry (setup : UiSetup) (suite : Suite) (c : TestCase) (anyFailed : Bool) (index : Nat)
    (step : Step) : Task Stage Entry :=
  if !step.enabled then return skip (newEntry suite c index step) "step disabled"
  else if anyFailed && step.skipOnFailure then
    return skip (newEntry suite c index step) "skipped after an earlier failure"
  else runStep setup suite c index step

/-- The entries of steps in order. -/
def runSteps (setup : UiSetup) (suite : Suite) (c : TestCase) :
    Bool → Nat → List Step → Task Stage (List Entry)
  | _, _, [] => return []
  | anyFailed, index, step :: rest => do
    let e ← stepEntry setup suite c anyFailed index step
    let es ← runSteps setup suite c (anyFailed || e.status == .fail) (index + 1) rest
    return e :: es

/-- The entries of a test case; the browser is closed afterwards, whatever it answers. -/
def caseOnStage (setup : UiSetup) (suite : Suite) (c : TestCase) : Task Stage (List Entry) := do
  let es ← runSteps setup suite c false 0 c.steps
  let _ ← (Stage.onSession Session.close).result
  return es

/-- **Run a test case** in a session of its own. -/
def runCase (setup : UiSetup) (suite : Suite) (c : TestCase) : Task Store (List Entry) :=
  (caseOnStage setup suite c).focus (fun s => ⟨.closed, s⟩) fun g _ => g.store

/-- The entries of test cases in order. -/
def runCases (setup : UiSetup) (suite : Suite) : List TestCase → Task Store (List Entry)
  | [] => return []
  | c :: rest => do
    let es ← runCase setup suite c
    let more ← runCases setup suite rest
    return es ++ more

/-- **Run all cases of a suite.** -/
def runSuite (setup : UiSetup) (suite : Suite) : Task Store (List Entry) :=
  runCases setup suite suite.cases

end Ui

end SuiteRunner

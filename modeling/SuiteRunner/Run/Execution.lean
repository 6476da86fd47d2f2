import SuiteRunner.Api.Run
import SuiteRunner.Run.Outcome
import SuiteRunner.Run.Selection
import SuiteRunner.Settings
import SuiteRunner.Suite.Filter
import SuiteRunner.Suite.File
import SuiteRunner.Target
import SuiteRunner.Ui.Run

/-!
  SuiteRunner.Run.Execution
  ────────────────────────────────
  **RUNNING A TARGET, OR ALL SUITES.**

  A suite that passes the filters is run, as a whole or in the part that the target names, and a
  report on it is written.  Without a target every suite file is taken up, and one that fails does
  not keep the others from running.  However a run ends, the local variables of all cases are
  forgotten and the totals are printed.
-/

namespace SuiteRunner

/-- What a run is given. -/
structure RunSetup where
  settings : Settings := {}
  filters : SuiteFilters := .empty
  custom : CustomCode := {}
  preProcess : PreProcessSetup := {}

namespace RunSetup

/-- How the items of a suite file are carried out. -/
def api (r : RunSetup) (f : SuiteFile) : ApiSetup :=
  { baseDir := f.baseDirectory, preProcess := r.preProcess }

/-- How the steps of suites are carried out. -/
def ui (r : RunSetup) : UiSetup :=
  { retry := r.settings.retry, screenshotDir := r.settings.screenshotDir,
    codeLimit := r.settings.codeLimit, custom := r.custom, preProcess := r.preProcess }

end RunSetup

namespace Run

/-! ## §1. The entries of a suite. -/

/-- The entries of a suite, run as a whole. -/
def suiteEntries (r : RunSetup) (f : SuiteFile) (s : Suite) : Task Store (List Entry) :=
  match s.kind with
  | .api => Api.runSuite (r.api f) s
  | .ui => Ui.runSuite r.ui s

/-- The entries of one case. -/
def caseEntries (r : RunSetup) (f : SuiteFile) (id name : String) : Task Store (List Entry) := do
  let c ← Task.ofExcept (f.suite.caseMeant id name)
  suiteEntries r f (f.suite.withSingleCase c)

/-- The entry of one data item. -/
def itemEntries (r : RunSetup) (f : SuiteFile) (caseId caseName : String) (index : Nat)
    (name : String) : Task Store (List Entry) := do
  Task.ofExcept f.suite.refuseData
  let c ← Task.ofExcept (f.suite.caseMeant caseId caseName)
  let i ← Task.ofExcept (c.positionMeant index name)
  return [← Api.runDataItem (r.api f) (f.suite.withSingleCase c) c i]

/-- **The entries of a target.** -/
def entries (r : RunSetup) (f : SuiteFile) : Target → Task Store (List Entry)
  | .suite _ _ => suiteEntries r f f.suite
  | .testCase _ _ id name => caseEntries r f id name
  | .dataItem _ _ caseId caseName index name => itemEntries r f caseId caseName index name

/-! ## §2. Reports. -/

/-- Fail if the files refuse something. -/
def orFail {α : Type} (answer : Except String α) : Except Failure α :=
  match answer with
  | .ok a => .ok a
  | .error reason => .error (.io reason)

/-- Write a report to a file of its own and give its path. -/
def writeReport (r : RunSetup) (report : Report) : Task Store String := do
  let made : Except String Unit ← Task.ask (.makeDirectories r.settings.reportsDir)
  Task.ofExcept (orFail made)
  let now : Int ← Task.ask .clock
  let name := Report.fileName report.summary.suiteName (Time.Moment.ofMillis now).stamp
  let path := Path.join r.settings.reportsDir name
  let written : Except String Unit ← Task.ask (.writeText path report.toJson.pretty)
  Task.ofExcept (orFail written)
  return path

/-! ## §3. Suite files. -/

/-- **Run a target in a suite file** and report on it, unless the filters leave the suite out. -/
def runFile (r : RunSetup) (f : SuiteFile) (t : Target) : Task Store SuiteEnding :=
  if !f.suite.passes r.filters then return .filtered f.suite.name
  else do
    let started : Int ← Task.ask .clock
    let es ← entries r f t
    let finished : Int ← Task.ask .clock
    let report := Report.of f.suite.name f.suite.tags es (finished - started).toNat
    let path ← writeReport r report
    return .completed report.summary path

/-- Run the target that an address names. -/
def runTarget (r : RunSetup) (t : Target) : Task Store RunOutcome := do
  let tree : FileTree ← Task.ask (.files r.settings.suitesDir)
  let f ← Task.ofExcept (SuiteFile.find tree r.settings.suitesDir t.suiteId t.suiteName)
  let ending ← runFile r f t
  return .ofEndings [ending]

/-- Run the suite of a file as a whole. -/
def runPath (r : RunSetup) (tree : FileTree) (path : String) : Task Store SuiteEnding := do
  let f ← Task.ofExcept (SuiteFile.open_ tree path)
  runFile r f (.suite f.suite.id f.suite.name)

/-- The endings of suite files; a failure is an ending too. -/
def endings (r : RunSetup) (tree : FileTree) : List String → Task Store (List SuiteEnding)
  | [] => return []
  | path :: rest => do
    let ending := match ← (runPath r tree path).result with
      | .ok e => e
      | .error f => .broken f
    let more ← endings r tree rest
    return ending :: more

/-- **Run every suite file.** -/
def runAll (r : RunSetup) : Task Store RunOutcome := do
  let tree : FileTree ← Task.ask (.files r.settings.suitesDir)
  let paths ← Task.ofExcept (SuiteFile.discover tree r.settings.suitesDir)
  return .ofEndings (← endings r tree paths)

/-! ## §4. Whole runs. -/

/-- Run what an address names, or everything. -/
def runAddress (r : RunSetup) : Option String → Task Store RunOutcome
  | some address => do runTarget r (← Task.ofExcept (Target.parse address))
  | none => runAll r

/-- **A run:** what the address names is run, local variables are forgotten, totals are printed. -/
def run (r : RunSetup) (address : Option String) : Task Store RunOutcome := do
  let started : Int ← Task.ask .clock
  let result ← (runAddress r address).result
  let _ ← Task.update Store.cleanupLocals
  let finished : Int ← Task.ask .clock
  let totals := RunOutcome.totals result (finished - started).toNat
  Task.ask (.print (totals.render ++ "\n"))
  let outcome ← Task.ofExcept result
  return { outcome with summary := totals }

/-- The variables of a run: those of its registry, if it has one. -/
def openStore (settings : Settings) : Errand (Except Failure Store) :=
  match settings.checked, settings.registryPath with
  | .error f, _ => return .error f
  | .ok _, none => return .ok (.ofRegistry none)
  | .ok _, some path => do
    let opened : Except Failure Registry ← Program.query (S := outside) (.openRegistry path)
    let now : Int ← Program.query (S := outside) .clock
    return opened.map fun registry => { Store.ofRegistry (some registry) with clock := now / 1000 }

/-- Keep the registry of a run in its file. -/
def keepStore (settings : Settings) (s : Store) : Errand Unit :=
  match settings.registryPath, s.registry with
  | some path, some registry => Program.query (S := outside) (.saveRegistry path registry)
  | _, _ => return ()

/-- **A run with the variables of its registry.** -/
def runStored (r : RunSetup) (address : Option String) : Errand (Except Failure RunOutcome) := do
  match ← openStore r.settings with
  | .error f => return .error f
  | .ok s =>
    let (result, s) ← run r address s
    keepStore r.settings s
    return result

end Run

end SuiteRunner

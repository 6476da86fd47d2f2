import SuiteRunner.CommandLine.Command
import SuiteRunner.CommandLine.Grid
import SuiteRunner.Outside.Environment
import SuiteRunner.Run.Execution

/-!
  SuiteRunner.CommandLine.Program
  ────────────────────────────────
  **CARRYING OUT COMMANDS.**

  What is said on the command line wins over the environment, and that over the file of settings.
  A command ends with a number: zero if all went well, one if something failed, two if the
  arguments made no sense.
-/

namespace SuiteRunner.CommandLine

/-! ## §1. How a command ends. -/

/-- The number a command ends with, and what it says on the channel for errors. -/
structure Ending where
  code : Nat
  errors : String := ""
  deriving DecidableEq, Repr, Inhabited

/-- Why a command fails: a text, and what lies behind it. -/
structure Complaint where
  text : String
  cause : Option String := none

/-- What lies behind a failure, if its text was made from the text of something else. -/
def causeOf : Failure → Option String
  | .io r => some r
  | .storage r => some r
  | .form r => some r
  | _ => none

/-- The complaint of a failure. -/
def Complaint.ofFailure (f : Failure) : Complaint := ⟨f.message, causeOf f⟩

/-- The lines of a complaint. -/
def Complaint.render (c : Complaint) : String :=
  "Error: " ++ c.text
    ++ (match c.cause with
      | some r => "\n\nCaused by:\n    " ++ r
      | none => "")
    ++ "\n"

/-- A piece of work that may end with a complaint. -/
abbrev Work := ExceptT Complaint (Program outside)

namespace Work

/-- Ask a question. -/
def ask (q : Request) : Work q.Answer := ExceptT.lift (Program.query (S := outside) q)

/-- Complain of a failure. -/
def ofExcept {α : Type} (r : Except Failure α) : Work α :=
  ExceptT.mk (.done (match r with
    | .ok a => .ok a
    | .error f => .error (.ofFailure f)))

/-- A program whose failures are complaints. -/
def ofErrand {α : Type} (p : Errand (Except Failure α)) : Work α := do
  ofExcept (← ExceptT.lift p)

/-- Print a line. -/
def say (line : String) : Work Unit := ask (.print (line ++ "\n"))

end Work

/-! ## §2. Settings. -/

/-- The variables that override settings. -/
def settingVariables : List String := [
  "HOME", "TESTFORGE_SUITES_DIR", "TESTFORGE_REPORTS_DIR", "TESTFORGE_REGISTRY",
  "TESTFORGE_MAX_CONCURRENCY", "TESTFORGE_HEADLESS"]

/-- The settings of a file, or those that nothing overrides. -/
def startingSettings (home : Option String) : Option String → Work Settings
  | none => return .defaults home
  | some path => do
    let answer : Except String String ← Work.ask (.readText path)
    match answer with
    | .ok text => Work.ofExcept (Settings.ofText home path text)
    | .error reason => throw (.ofFailure (.io reason))

/-- **The settings of a command.** -/
def settingsOf (config : Option String) : Work Settings := do
  let known : Surroundings ← ExceptT.lift (lookUp settingVariables)
  let s ← startingSettings (known.value "HOME") config
  Work.ofExcept (s.overridden known.value)

/-- The settings as a run is asked for. -/
def RunArguments.appliedTo (a : RunArguments) (s : Settings) : Settings :=
  { s with
    suitesDir := a.suitesDir.getD s.suitesDir
    reportsDir := a.reportsDir.getD s.reportsDir
    maxConcurrency := a.concurrency.getD s.maxConcurrency
    retry := if a.noRetry then .once else s.retry
    browser := { s.browser with
      browser := a.browser.getD s.browser.browser
      headless := !a.headed && s.browser.headless } }

/-! ## §3. Runs. -/

/-- The outcome of a run as a document. -/
def outcomeToJson (o : RunOutcome) : Json := .obj [
  ("summary", o.summary.toJson), ("reports", .arr (o.reports.map .str)),
  ("skippedSuites", .arr (o.skipped.map .str))]

/-- What a line says that goes well. -/
def goodLine (text : String) : String := "✅ " ++ text

/-- What a line says that calls for attention. -/
def warningLine (text : String) : String := "⚠️  " ++ text

/-- What a line says for information. -/
def noteLine (text : String) : String := "ℹ️  " ++ text

/-- Print lines. -/
def sayAll : List String → Work Unit
  | [] => return ()
  | l :: rest => do
    Work.say l
    sayAll rest

/-- Show the outcome of a run. -/
def showOutcome (o : RunOutcome) : OutputFormat → Work Unit
  | .json => Work.say (outcomeToJson o).pretty
  | .table => sayAll (o.reports.map (fun p => noteLine ("Report: " ++ p))
      ++ o.skipped.map fun s => warningLine ("Skipped by filters: " ++ s))

/-- **Run suites;** tells whether all went well. -/
def runSuites (a : RunArguments) (s : Settings) (format : OutputFormat) : Work Bool := do
  match filtersOfArguments a.filters with
  | .error text => throw ⟨text, none⟩
  | .ok filters =>
    let setup : RunSetup := { settings := a.appliedTo s, filters := filters }
    let outcome ← Work.ofErrand (Run.runStored setup a.target)
    showOutcome outcome format
    return outcome.summary.success

/-! ## §4. Variables. -/

/-- The date and the time of day of a time in seconds. -/
def dateAndTime (seconds : Int) : String :=
  let m := Time.Moment.ofMillis (seconds * 1000)
  Time.dateText m ++ " " ++ Time.clockText m

/-- The columns of a list of variables. -/
def columns : List (String × String × (Row → String)) := [
  ("Name", "name", fun r => r.key.name), ("Value", "value", fun r => r.value),
  ("Scope", "scope", fun r => r.key.scope.word), ("Suite", "suiteId", fun r => r.key.suite),
  ("Test Case", "testCaseId", fun r => r.key.testCase),
  ("Updated", "updatedAt", fun r => dateAndTime r.updatedAt)]

/-- A list of variables as it is shown. -/
def listing (rows : List Row) : OutputFormat → String
  | .json =>
    (Json.arr (rows.map fun r => .obj (columns.map fun (_, key, f) => (key, .str (f r))))).pretty
      ++ "\n"
  | .table =>
    if rows.isEmpty then "No items found.\n"
    else Grid.render (columns.map fun c => c.1) (rows.map fun r => columns.map fun c => c.2.2 r)

/-- The variable that is to be set; a global one has no owner. -/
def newVariable (v : VariableArguments) (value : String) : NewVariable :=
  match v.scope with
  | .global => ⟨v.name, value, .global, none, none⟩
  | .perCase => ⟨v.name, value, .perCase, v.suite, v.testCase⟩

/-- What a command for variables prints, and the registry it leaves. -/
def changed (r : Registry) (format : OutputFormat) (now : Int) :
    VariableCommand → Except Failure (String × Registry)
  | .list scope => .ok (listing (r.list scope) format, r)
  | .set v value override =>
    (r.add (newVariable v value) override now).map fun (row, r) =>
      (goodLine ("Set " ++ row.key.scope.word ++ " variable '" ++ row.key.name ++ "'") ++ "\n", r)
  | .delete v =>
    let (found, r) := r.delete v.scope v.suite v.testCase v.name
    .ok ((if found then goodLine ("Deleted variable '" ++ v.name ++ "'")
      else warningLine ("No variable named '" ++ v.name ++ "'")) ++ "\n", r)
  | .clearGlobal =>
    let (n, r) := r.clearGlobal
    .ok (goodLine ("Removed " ++ toString n ++ " global variable(s)") ++ "\n", r)
  | .cleanupLocal =>
    let (n, r) := r.deleteAllLocal
    .ok (goodLine ("Removed " ++ toString n ++ " local variable(s)") ++ "\n", r)

/-- The file of the registry. -/
def registryPath (s : Settings) : Work String :=
  match s.registryPath with
  | some path => return path
  | none => throw ⟨"no variable registry configured (TESTFORGE_REGISTRY is empty)", none⟩

/-- **Carry out a command for variables.** -/
def manageVariables (c : VariableCommand) (s : Settings) (format : OutputFormat) : Work Unit := do
  let path ← registryPath s
  let opened : Except Failure Registry ← Work.ask (.openRegistry path)
  let r ← Work.ofExcept opened
  let now : Int ← Work.ask .clock
  let (text, r) ← Work.ofExcept (changed r format (now / 1000) c)
  Work.ask (.saveRegistry path r)
  Work.ask (.print text)

/-! ## §5. The program. -/

/-- The version of the program. -/
def version : String := "0.1.0"

/-- Carry out an invocation; tells whether all went well. -/
def carryOut (i : Invocation) : Work Bool := do
  let s ← settingsOf i.config
  match i.command with
  | .run a => runSuites a s i.format
  | .variables c => do
    manageVariables c s i.format
    return true
  | .version => do
    Work.say ("testforge v" ++ version)
    return true

/-- What the program says about itself. -/
def helpText : String :=
  "Usage: testforge [OPTIONS] <COMMAND>\n\nCommands:\n"
    ++ "  run      Run a target, or every suite in the suites directory\n"
    ++ "  vars     Manage persisted variables\n"
    ++ "  version  Show version information\n"

/-- The variable that names the file of settings. -/
def configVariable : String := "TESTFORGE_CONFIG"

/-- **The program:** read the arguments and carry them out. -/
def program (args : List String) : Errand Ending := do
  let fallback : Option String ← Program.query (S := outside) (.variable configVariable)
  match invocation fallback args with
  | .error .misuse => return ⟨2, helpText⟩
  | .error .help => do
    Program.query (S := outside) (.print helpText)
    return ⟨0, ""⟩
  | .error .version => do
    Program.query (S := outside) (.print ("testforge " ++ version ++ "\n"))
    return ⟨0, ""⟩
  | .ok i =>
    match ← (carryOut i).run with
    | .ok true => return ⟨0, ""⟩
    | .ok false => return ⟨1, ""⟩
    | .error c => return ⟨1, c.render⟩

end SuiteRunner.CommandLine

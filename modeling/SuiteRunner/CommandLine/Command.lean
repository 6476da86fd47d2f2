import SuiteRunner.CommandLine.Arguments
import SuiteRunner.Number.Reading
import SuiteRunner.Settings
import SuiteRunner.Variables.Scope

/-!
  SuiteRunner.CommandLine.Command
  ────────────────────────────────
  **WHAT CAN BE ASKED OF THE PROGRAM.**

  There is a command to run suites, one for the version, and a family of commands for variables.
  Where the settings are and how results are shown may be said at every level.
-/

namespace SuiteRunner.CommandLine

/-! ## §1. Commands. -/

/-- How results are shown. -/
inductive OutputFormat where
  | table
  | json
  deriving DecidableEq, Repr, Inhabited

/-- What is said about a run; what is not said comes from the settings. -/
structure RunArguments where
  target : Option String := none
  filters : List String := []
  suitesDir : Option String := none
  reportsDir : Option String := none
  concurrency : Option Nat := none
  browser : Option Browser := none
  headed : Bool := false
  noRetry : Bool := false

/-- Which variable is meant. -/
structure VariableArguments where
  name : String
  scope : Scope
  suite : Option String := none
  testCase : Option String := none

/-- What can be done with variables. -/
inductive VariableCommand where
  | list (scope : Option Scope)
  | set (variable_ : VariableArguments) (value : String) (override : Bool)
  | delete (variable_ : VariableArguments)
  | clearGlobal
  | cleanupLocal

/-- What can be asked. -/
inductive Command where
  | run (args : RunArguments)
  | variables (command : VariableCommand)
  | version

/-- A command, the file of its settings, and how its results are shown. -/
structure Invocation where
  config : Option String
  format : OutputFormat
  command : Command

/-! ## §2. Options. -/

/-- The options of every level. -/
def commonForms : List OptionForm := [
  ⟨"config", some 'c', true, false⟩, ⟨"format", none, true, false⟩,
  ⟨"verbose", some 'v', false, false⟩]

/-- The options of a run. -/
def runForms : List OptionForm := commonForms ++ [
  ⟨"filter", some 'f', true, true⟩, ⟨"suites-dir", none, true, false⟩,
  ⟨"reports-dir", none, true, false⟩, ⟨"concurrency", some 'j', true, false⟩,
  ⟨"browser", none, true, false⟩, ⟨"headed", none, false, false⟩,
  ⟨"no-retry", none, false, false⟩]

/-- The option for a scope. -/
def scopeForms : List OptionForm := commonForms ++ [⟨"scope", some 's', true, false⟩]

/-- The options that say which variable is meant. -/
def variableForms : List OptionForm := scopeForms ++ [
  ⟨"suite", none, true, false⟩, ⟨"case", none, true, false⟩]

/-- The options of setting a variable. -/
def setForms : List OptionForm := variableForms ++ [⟨"override", none, false, false⟩]

/-! ## §3. Values. -/

/-- A value that has to be one of some words. -/
def wordOf {α : Type} (words : List (String × α)) (text : String) : Except Halt α :=
  match words.lookup text with
  | some a => .ok a
  | none => .error .misuse

/-- The value of an option, read. -/
def optional {α : Type} (read : String → Except Halt α) : Option String → Except Halt (Option α)
  | none => .ok none
  | some t => (read t).map some

/-- A path, which is not empty. -/
def pathOf (text : String) : Except Halt String :=
  if text.isEmpty then .error .misuse else .ok text

/-- A number. -/
def numberOf (text : String) : Except Halt Nat :=
  match natOfText? 0xffffffffffffffff text with
  | some n => .ok n
  | none => .error .misuse

/-- The words for formats. -/
def formatWords : List (String × OutputFormat) := [("table", .table), ("json", .json)]

/-- The words for scopes. -/
def scopeWords : List (String × Scope) := [("global", .global), ("local", .perCase)]

/-! ## §4. Reading. -/

/-- Refuse words that are left over. -/
def noMore {α : Type} (a : α) : List String → Except Halt α
  | [] => .ok a
  | _ => .error .misuse

/-- A run. -/
def runOf (r : Reading) : Except Halt RunArguments := do
  let suitesDir ← optional pathOf (r.value? "suites-dir")
  let reportsDir ← optional pathOf (r.value? "reports-dir")
  let concurrency ← optional numberOf (r.value? "concurrency")
  let browser ← optional (wordOf Settings.browserWords) (r.value? "browser")
  noMore { target := r.words.head?, filters := r.list "filter", suitesDir := suitesDir,
           reportsDir := reportsDir, concurrency := concurrency, browser := browser,
           headed := r.has "headed", noRetry := r.has "no-retry" } r.words.tail

/-- The variable with a name. -/
def variableOf (r : Reading) (name : String) : Except Halt VariableArguments := do
  let scope ← optional (wordOf scopeWords) (r.value? "scope")
  return ⟨name, scope.getD .global, r.value? "suite", r.value? "case"⟩

/-- Set a variable. -/
def setOf (r : Reading) : Except Halt VariableCommand :=
  match r.words with
  | [name, value] => do return .set (← variableOf r name) value (r.has "override")
  | _ => .error .misuse

/-- Delete a variable. -/
def deleteOf (r : Reading) : Except Halt VariableCommand :=
  match r.words with
  | [name] => do return .delete (← variableOf r name)
  | _ => .error .misuse

/-- List variables. -/
def listOf (r : Reading) : Except Halt VariableCommand := do
  let scope ← optional (wordOf scopeWords) (r.value? "scope")
  noMore (.list scope) r.words

/-- What is common to all commands, for a command. -/
def invocationOf (fallback : Option String) (r : Reading) (c : Command) :
    Except Halt Invocation := do
  let config ← optional pathOf ((r.value? "config").orElse fun _ => fallback)
  let format ← optional (wordOf formatWords) (r.value? "format")
  return ⟨config, format.getD .table, c⟩

/-- A command for variables, by its word. -/
def variableCommand (args : List String) : Except Halt (Reading × VariableCommand) :=
  let leaf (forms : List OptionForm) (f : Reading → Except Halt VariableCommand)
      (rest : List String) : Except Halt (Reading × VariableCommand) := do
    let r ← Arguments.read forms false rest
    return (r, ← f r)
  match args with
  | "list" :: rest => leaf scopeForms listOf rest
  | "set" :: rest => leaf setForms setOf rest
  | "delete" :: rest => leaf variableForms deleteOf rest
  | "clear-global" :: rest => leaf commonForms (fun r => noMore .clearGlobal r.words) rest
  | "cleanup-local" :: rest => leaf commonForms (fun r => noMore .cleanupLocal r.words) rest
  | "help" :: _ => .error .help
  | _ => .error .misuse

/-- A command, by its word. -/
def commandOf (args : List String) : Except Halt (Reading × Command) :=
  match args with
  | "run" :: rest => do
    let r ← Arguments.read runForms false rest
    return (r, .run (← runOf r))
  | "vars" :: rest => do
    let outer ← Arguments.read commonForms true rest
    let (r, c) ← variableCommand outer.words
    return (r.within outer, .variables c)
  | "version" :: rest => do
    let r ← Arguments.read commonForms false rest
    return (r, ← noMore .version r.words)
  | "help" :: _ => .error .help
  | _ => .error .misuse

/-- **The invocation of arguments;** `fallback` is the file of settings if none is named. -/
def invocation (fallback : Option String) (args : List String) : Except Halt Invocation := do
  let outer ← Arguments.read commonForms true args
  let (r, c) ← commandOf outer.words
  invocationOf fallback (r.within outer) c

end SuiteRunner.CommandLine

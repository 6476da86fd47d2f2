import SuiteRunner.Outside.Environment
import SuiteRunner.PreProcess.FakeData
import SuiteRunner.Suite.Basic
import SuiteRunner.Text.Split
import SuiteRunner.Time.Pattern
import SuiteRunner.Variables.Store

/-!
  SuiteRunner.PreProcess.Function
  ────────────────────────────────
  **FUNCTIONS THAT RUN BEFORE A REQUEST OR A STEP.**

  A function takes texts and has one output.  There are functions for made-up data, for the time,
  for secret texts and for the first row of a query.
-/

namespace SuiteRunner

/-- What the functions are given.  Without a cipher the key is looked up in the environment. -/
structure PreProcessSetup where
  cipher : Option TextCipher := none

namespace PreProcess

variable {σ : Type}

/-- The failure for an argument that is not there. -/
def missingArgument (function what : String) : Failure :=
  .preProcess function ("missing argument: " ++ what)

/-- The time by a pattern, or one of the words for a usual form. -/
def timeText (function : String) (form : Option String) : Task σ String := do
  let now : Int ← Task.ask .moment
  let m := Time.Moment.ofNanos now
  match form.getD "" with
  | "" | "millis" => return toString (Time.millisOfNanos now)
  | "seconds" => return toString (Time.epochSeconds m)
  | "iso" => return m.isoText
  | pattern =>
    match m.format? pattern with
    | some text => return text
    | none =>
      throw (.preProcess function ("invalid timestamp format '" ++ pattern ++ "'"))

/-- The cipher at hand, or the one with the key of the environment. -/
def cipher (setup : PreProcessSetup) : Task σ TextCipher :=
  match setup.cipher with
  | some c => return c
  | none => do
    let known ← Task.errand (lookUp [TextCipher.keyVariable])
    Task.ofExcept (TextCipher.ofVariables known.value)

/-- A text made secret. -/
def encrypt (setup : PreProcessSetup) (text : String) : Task σ String := do
  let c ← cipher setup
  let nonce ← Task.ask .nonce
  return c.encrypt nonce text

/-- The first row of a query; null if there is none. -/
def firstRow (database sql : String) (params : List String) : Task σ Json := do
  let known ← Task.errand (lookUp (DatabaseConfig.variableNames database))
  let config ← Task.ofExcept (DatabaseConfig.ofVariables database known.value)
  let row ← Task.ofExcept (← Task.ask (.firstRow config sql params))
  return match row with
    | some members => .obj members
    | none => .null

/-- The first word of functions that name the kind of made-up data. -/
def fakePrefix : String := "faker."

/-- **The output of a function.** -/
def output (setup : PreProcessSetup) (function : String) (args : List String) : Task σ Json :=
  match function with
  | "generateFakeData" | "faker" => do
    let s ← FakeData.value (args.head?.getD "")
    return .str s
  | "currentTimestamp" | "timestamp" => do
    let s ← timeText function args.head?
    return .str s
  | "encrypt" =>
    match args with
    | text :: _ => do
      let s ← encrypt setup text
      return .str s
    | [] => throw (missingArgument function "value to encrypt")
  | "generateUser" => FakeData.user
  | "dbQuery" =>
    match args with
    | database :: sql :: params => firstRow database sql params
    | [_] => throw (missingArgument function "query")
    | [] => throw (missingArgument function "database name")
  | other =>
    match Text.dropFront? other fakePrefix with
    | some kind => do
      let s ← FakeData.value kind
      return .str s
    | none => throw (.preProcess other "unknown pre-processor function")

end PreProcess

end SuiteRunner

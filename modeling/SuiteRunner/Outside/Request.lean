import SuiteRunner.Browser.Call
import SuiteRunner.Cipher.TextCipher
import SuiteRunner.Database.Config
import SuiteRunner.Error
import SuiteRunner.Files.Tree
import SuiteRunner.Http.Message
import SuiteRunner.Outside.Program

/-!
  SuiteRunner.Outside.Request
  ────────────────────────────────
  **WHAT A RUN ASKS OF THE OUTSIDE.**

  A run reaches browsers, databases, servers, files, the environment, the clock and chance through
  the questions listed here and in no other way.  A task is a program that also has a state and may
  fail; the state it had when it failed is kept.
-/

namespace SuiteRunner

/-- The row of a query: columns and their values. -/
abbrev DatabaseRow := List (String × Json)

/-- The kinds of data that are made up outside.  A run knows nothing of such a value but that it is
a text. -/
inductive MadeUp where
  | name
  | firstName
  | lastName
  | email
  | username
  | phone
  | street
  | city
  | uuid
  | password
  | company
  | word
  deriving DecidableEq, Repr

/-- The questions of a run. -/
inductive Request where
  /-- A browser that is not started yet; the answer is its number. -/
  | createBrowser
  /-- Start a browser; the answer is its first page. -/
  | launchBrowser (browser : Nat)
  | callBrowser (browser : Nat) (call : BrowserCall)
  | closeBrowser (browser : Nat)
  /-- The first row of a query. -/
  | firstRow (config : DatabaseConfig) (sql : String) (params : List String)
  /-- Send one request; a server may not answer. -/
  | exchange (request : Http.Request)
  /-- All files below a directory. -/
  | files (directory : String)
  | readText (path : String)
  | makeDirectories (path : String)
  | writeText (path text : String)
  | openRegistry (path : String)
  | saveRegistry (path : String) (registry : Registry)
  /-- A variable of the environment. -/
  | variable (name : String)
  /-- The clock in milliseconds since 1970, for durations and for stamps. -/
  | clock
  /-- The time in nanoseconds since 1970. -/
  | moment
  /-- A random number below a bound. -/
  | draw (below : Nat)
  | madeUp (kind : MadeUp)
  | nonce
  | pause (milliseconds : Nat)
  | print (text : String)

/-- The type of the answer to a question. -/
abbrev Request.Answer : Request → Type
  | .createBrowser => Except Failure Nat
  | .launchBrowser _ => Except Failure String
  | .callBrowser _ _ => Except Failure Json
  | .closeBrowser _ => Except Failure Unit
  | .firstRow _ _ _ => Except Failure (Option DatabaseRow)
  | .exchange _ => Except String Http.Response
  | .files _ => FileTree
  | .readText _ => Except String String
  | .makeDirectories _ => Except String Unit
  | .writeText _ _ => Except String Unit
  | .openRegistry _ => Except Failure Registry
  | .saveRegistry _ _ => Unit
  | .variable _ => Option String
  | .clock => Int
  | .moment => Int
  | .draw _ => Nat
  | .madeUp _ => String
  | .nonce => Nonce
  | .pause _ => Unit
  | .print _ => Unit

/-- The questions of a run with their answers. -/
abbrev outside : Signature := ⟨Request, Request.Answer⟩

/-- A program that asks the questions of a run. -/
abbrev Errand (α : Type) := Program outside α

/-- **A program with a state that may fail.** -/
abbrev Task (σ : Type) := ExceptT Failure (StateT σ (Program outside))

namespace Task

variable {σ τ α : Type}

/-- Ask a question. -/
def ask (q : Request) : Task σ q.Answer := fun s =>
  .ask (S := outside) q fun r => .done (.ok r, s)

/-- A program without a state as part of a task. -/
def errand (p : Errand α) : Task σ α := fun s => p.bind fun a => .done (.ok a, s)

/-- Fail if a result is a failure. -/
def ofExcept (r : Except Failure α) : Task σ α := fun s => .done (r, s)

/-- Change the state by a function that has a result. -/
def update (f : σ → α × σ) : Task σ α := fun s =>
  let (a, s) := f s
  .done (.ok a, s)

/-- A task as part of one with a larger state. -/
def focus (get : τ → σ) (put : σ → τ → τ) (t : Task σ α) : Task τ α := fun s =>
  (t (get s)).bind fun (r, part) => .done (r, put part s)

/-- What a task does if failing is no failure. -/
def result (t : Task σ α) : Task σ (Except Failure α) := fun s =>
  (t s).bind fun (r, s) => .done (.ok r, s)

/-- Let a task fail with other failures. -/
def mapFailure (f : Failure → Failure) (t : Task σ α) : Task σ α := fun s =>
  (t s).bind fun (r, s) =>
    .done (match r with
      | .ok a => .ok a
      | .error e => .error (f e), s)

end Task

end SuiteRunner

import SuiteRunner.Bridge.Answer
import SuiteRunner.Outside.Request
import SuiteRunner.Settings

/-!
  SuiteRunner.Bridge.Client
  ────────────────────────────────
  **TALKING TO A BROWSER OVER A BRIDGE.**

  A bridge is a process that drives the browser.  It reads one request in a line and writes one
  answer in a line.  Requests are numbered, no number is used twice, and a request takes the first
  answer that bears its number; lines before that are passed over.  A request whose line cannot be
  written fails, and so does one that comes upon a line that cannot be read.
-/

namespace SuiteRunner.Bridge

/-- What is asked of the process. -/
inductive PipeQuery where
  /-- Whether the tool that drives browsers is installed. -/
  | toolInstalled
  | start
  | send (line : String)
  /-- The first answer to a request among the lines not read yet; none if they end before it. -/
  | receive (id : Nat)
  | stop

/-- The type of the answer to a question. -/
abbrev PipeQuery.Answer : PipeQuery → Type
  | .toolInstalled => Bool
  | .start => Except Failure Unit
  | .send _ => Except Failure Unit
  | .receive _ => Except Failure (Option Bridge.Answer)
  | .stop => Unit

/-- The questions to the process with their answers. -/
abbrev pipe : Signature := ⟨PipeQuery, PipeQuery.Answer⟩

/-- The state of the client: whether there is a process, and the number of the last request. -/
structure Client where
  running : Bool := false
  lastId : Nat := 0
  deriving DecidableEq, Repr, Inhabited

/-- What the client does with the process. -/
abbrev ClientTask := ExceptT Failure (StateT Client (Program pipe))

/-- Ask the process a question. -/
def ask (q : PipeQuery) : ClientTask q.Answer := fun s =>
  .ask (S := pipe) q fun r => .done (.ok r, s)

/-- Fail if a result is a failure. -/
def ofExcept {α : Type} (r : Except Failure α) : ClientTask α := fun s => .done (r, s)

/-- What a client does if failing is no failure. -/
def result {α : Type} (t : ClientTask α) : ClientTask (Except Failure α) := fun s =>
  (t s).bind fun (r, s) => .done (.ok r, s)

/-- The line of a request. -/
def requestLine (id : Nat) (target : Json) (method : String) (args : List Json) : String :=
  (Json.obj [("id", Json.ofNat id), ("target", target), ("method", .str method),
    ("args", .arr args)]).compact

/-- What an answer says. -/
def Answer.value (a : Answer) (method : String) : Except Failure Json :=
  if a.ok then .ok a.result else .error (.driver (a.error.getD (method ++ " failed")))

/-- **Send a request and take its answer.** -/
def request (target : Json) (method : String) (args : List Json) : ClientTask Json := do
  modify fun s => { s with lastId := s.lastId + 1 }
  let s ← get
  if !s.running then throw (.driver "bridge not running")
  else
    ofExcept (← ask (.send (requestLine s.lastId target method args)))
    match ← ofExcept (← ask (.receive s.lastId)) with
    | some a => ofExcept (a.value method)
    | none => throw (.driver "Playwright bridge exited")

/-- A target that is nothing but a kind. -/
def bareTarget (kind : String) : Json := .obj [("kind", .str kind)]

/-- Start the process unless it runs. -/
def start : ClientTask Unit := do
  if (← get).running then return ()
  else if !(← ask .toolInstalled) then throw .browserToolMissing
  else
    ofExcept (← ask .start)
    modify fun s => { s with running := true }

/-- The argument of a launch. -/
def launchArgument (b : BrowserSettings) : Json := .obj [
  ("browser", .str b.browser.word), ("headless", .bool b.headless),
  ("width", Json.ofNat b.viewportWidth), ("height", Json.ofNat b.viewportHeight),
  ("timeout", Json.ofNat b.actionLimit)]

/-- Start the browser; the result is its first page. -/
def launch (b : BrowserSettings) : ClientTask String := do
  start
  match ← request (bareTarget "launch") "launch" [launchArgument b] with
  | .str page => return page
  | v => throw (.driver ("launch returned " ++ v.compact))

/-- Make a call. -/
def invoke (c : BrowserCall) : ClientTask Json := request c.target.toJson c.method c.args

/-- Close the browser and end the process; what goes wrong on the way does not matter. -/
def close : ClientTask Unit := do
  if (← get).running then
    let _ ← result (request (bareTarget "close") "close" [])
    ask .stop
    modify fun s => { s with running := false }
  else return ()

end SuiteRunner.Bridge

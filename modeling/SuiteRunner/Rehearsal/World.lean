import SuiteRunner.Outside.Samples
import SuiteRunner.Rehearsal.Rule
import SuiteRunner.Text.Split

/-!
  SuiteRunner.Rehearsal.World
  ────────────────────────────────
  **A WORLD TO REHEARSE IN.**

  A rehearsed world answers every question of a run from scripts and from its own state, and keeps
  a log of what it was asked.  All browsers share one script, one log and one count of pages.  Its
  clock moves on in pauses, with every request to a server and with every walk over the files; all
  else is done within a millisecond, so two readings may well be the same.
-/

namespace SuiteRunner.Rehearsal

/-- What happens to a browser. -/
inductive BrowserEvent where
  | created
  | launched
  | called (call : BrowserCall)
  | closed

/-- A question to a database. -/
structure DatabaseQuery where
  config : DatabaseConfig
  sql : String
  params : List String

/-- What a server does with a request. -/
inductive ServerAnswer where
  | respond (response : Http.Response)
  | hangUp

/-- A rehearsed world. -/
structure World where
  browserScript : List (Rule BrowserEvent (Except Failure Json)) := []
  browserLog : List BrowserEvent := []
  browsers : Nat := 0
  pages : Nat := 0
  databaseScript : List (Rule DatabaseQuery (Except Failure Json)) := []
  databaseLog : List DatabaseQuery := []
  /-- Whether databases can be reached at all. -/
  databaseReachable : Bool := true
  serverScript : List (Rule Http.Request ServerAnswer) := []
  serverLog : List Http.Request := []
  files : FileTree := .empty
  environment : List (String × String) := []
  printed : List String := []
  time : Int := 1700000000000
  chance : Nat := 1
  deriving Inhabited

namespace World

/-! ## §1. Browsers. -/

/-- Let something happen to a browser; the script has the last word. -/
def browserAnswer (e : BrowserEvent) (w : World) : Except Failure Json × World :=
  let (a, script) := consult e w.browserScript
  (a.getD (.ok .null), { w with browserScript := script })

/-- The same, with an entry in the log. -/
def loggedAnswer (e : BrowserEvent) (w : World) : Except Failure Json × World :=
  browserAnswer e { w with browserLog := w.browserLog ++ [e] }

/-- Make a browser. -/
def create (w : World) : Except Failure Nat × World :=
  match browserAnswer .created w with
  | (.ok _, w) => (.ok w.browsers, { w with browsers := w.browsers + 1 })
  | (.error f, w) => (.error f, w)

/-- Start a browser; its first page is numbered. -/
def launch (w : World) : Except Failure String × World :=
  match loggedAnswer .launched w with
  | (.ok _, w) => (.ok ("page-" ++ toString (w.pages + 1)), { w with pages := w.pages + 1 })
  | (.error f, w) => (.error f, w)

/-- Close a browser. -/
def close (w : World) : Except Failure Unit × World :=
  let (a, w) := loggedAnswer .closed w
  (a.map fun _ => (), w)

/-! ## §2. Databases and servers. -/

/-- Ask a database for a row; an answer that is no object is no row. -/
def firstRow (q : DatabaseQuery) (w : World) : Except Failure (Option DatabaseRow) × World :=
  if !w.databaseReachable then (.error q.config.unreachable, w)
  else
    let (a, script) := consult q w.databaseScript
    let row := (a.getD (.ok .null)).map Json.members?
    (row, { w with databaseScript := script, databaseLog := w.databaseLog ++ [q] })

/-- A response as it comes for a request: some have no body. -/
def delivered (r : Http.Request) (response : Http.Response) : Http.Response :=
  if r.bodiless response.status then { response with body := [] } else response

/-- Send a request to a server; what no rule fits is not found, and none is reached in secret. -/
def exchange (r : Http.Request) (w : World) : Except String Http.Response × World :=
  if Text.startsWith r.url "https:" then (.error "no secure connection", w)
  else
    let (a, script) := consult r w.serverScript
    let w := { w with serverScript := script, serverLog := w.serverLog ++ [r] }
    match a with
    | none => (.ok ⟨404, [], []⟩, w)
    | some (.respond response) => (.ok (delivered r response), w)
    | some .hangUp => (.error "the connection was closed", w)

/-! ## §3. Files. -/

/-- Change the files; a refusal changes nothing. -/
def changeFiles (f : FileTree → Except FileFault FileTree) (w : World) :
    Except String Unit × World :=
  match f w.files with
  | .ok files => (.ok (), { w with files })
  | .error e => (.error e.message, w)

/-- The registry in a file, made if there is none. -/
def openRegistry (path : String) (w : World) : Except Failure Registry × World :=
  let parent := Path.parent path
  let made := if parent.isEmpty then .ok w.files else w.files.makeDirectories parent
  match made with
  | .error e => (.error (.io e.message), w)
  | .ok files =>
    let w := { w with files }
    match files.placeOf path with
    | .error e => (.error (.storage e.message), w)
    | .ok place =>
      match files.at? place with
      | some (.registry r) => (.ok r, w)
      | some .directory => (.error (.storage "unable to open database file"), w)
      | some (.text t) =>
        if t.isEmpty then (.ok .empty, { w with files := files.putAt place (.registry .empty) })
        else (.error (.storage FileFault.badDatabase.message), w)
      | none => (.ok .empty, { w with files := files.putAt place (.registry .empty) })

/-- Keep a registry in its file. -/
def saveRegistry (path : String) (r : Registry) (w : World) : World :=
  match w.files.placeOf path with
  | .ok place => { w with files := w.files.putAt place (.registry r) }
  | .error _ => w

/-! ## §4. Time and chance. -/

/-- Let time pass. -/
def after (ms : Nat) (w : World) : World := { w with time := w.time + ms }

/-- A number below a bound. -/
def draw (below : Nat) (w : World) : Nat × World :=
  let next := (w.chance * 6364136223846793005 + 1442695040888963407) % Nat.pow 2 64
  ((next / Nat.pow 2 32) % max below 1, { w with chance := next })

/-- A number of several draws. -/
def drawMany : Nat → World → Nat × World
  | 0, w => (0, w)
  | n + 1, w =>
    let (high, w) := w.drawMany n
    let (low, w) := w.draw 0x100000000
    (high * 0x100000000 + low, w)

/-- A sample of made-up data. -/
def madeUp (kind : MadeUp) (w : World) : String × World :=
  let (n, w) := w.drawMany 4
  (kind.sample n, w)

/-- Twelve bytes that were not used before. -/
def freshNonce (w : World) : Nonce × World :=
  let bytes := (List.range 12).map fun i => UInt8.ofNat (w.chance / Nat.pow 256 i)
  (⟨bytes, by simp [bytes]⟩, { w with chance := w.chance + 1 })

/-! ## §5. All questions. -/

/-- **The answer of a rehearsed world,** and the world after it. -/
def answer : (q : Request) → World → q.Answer × World
  | .createBrowser, w => w.create
  | .launchBrowser _, w => w.launch
  | .callBrowser _ call, w => w.loggedAnswer (.called call)
  | .closeBrowser _, w => w.close
  | .firstRow config sql params, w => w.firstRow ⟨config, sql, params⟩
  | .exchange request, w => (w.after 1).exchange request
  | .files _, w => (w.files, w.after 1)
  | .readText path, w =>
    (match w.files.read path with
      | .ok s => .ok s
      | .error e => .error e.message, w)
  | .makeDirectories path, w => w.changeFiles fun t => t.makeDirectories path
  | .writeText path text, w => w.changeFiles fun t => t.write path (.text text)
  | .openRegistry path, w => w.openRegistry path
  | .saveRegistry path r, w => ((), w.saveRegistry path r)
  | .variable name, w => (w.environment.lookup name, w)
  | .clock, w => (w.time, w)
  | .moment, w => (w.time * 1000000, w)
  | .draw below, w => w.draw below
  | .madeUp kind, w => w.madeUp kind
  | .nonce, w => w.freshNonce
  | .pause ms, w => ((), w.after ms)
  | .print text, w => ((), { w with printed := w.printed ++ [text] })

/-- The result of a program in a rehearsed world, and the world after it. -/
def run {α : Type} (p : Errand α) (w : World) : α × World :=
  Program.perform (S := outside) (m := StateM World) answer p w

/-- The result of a task in a rehearsed world, and the state and the world after it. -/
def runTask {σ α : Type} (t : Task σ α) (s : σ) (w : World) : Except Failure α × σ × World :=
  let ((r, s), w) := run (t s) w
  (r, s, w)

end World

end SuiteRunner.Rehearsal

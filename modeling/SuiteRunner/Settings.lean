import SuiteRunner.Error
import SuiteRunner.Files.Path
import SuiteRunner.Number.Reading
import SuiteRunner.Report.Entry
import SuiteRunner.Retry
import SuiteRunner.Text.LetterCase
import SuiteRunner.Toml.Reading

/-!
  SuiteRunner.Settings
  ────────────────────────────────
  **HOW A RUN IS SET UP.**

  Settings start from defaults, are read from a configuration text, and are then overridden by
  environment variables, one after another.  At least one suite must be allowed to run at a time.
-/

namespace SuiteRunner

/-- The browsers that can be started. -/
inductive Browser where
  | chromium
  | firefox
  | webkit
  deriving DecidableEq, Repr, Inhabited

/-- The word for a browser. -/
def Browser.word : Browser → String
  | .chromium => "chromium"
  | .firefox => "firefox"
  | .webkit => "webkit"

/-- How browsers are started. -/
structure BrowserSettings where
  browser : Browser := .chromium
  headless : Bool := true
  viewportWidth : Nat := 1280
  viewportHeight : Nat := 720
  /-- The program that runs the bridge to the browser. -/
  program : String := "node"
  /-- The time limit of one action, in milliseconds. -/
  actionLimit : Nat := 30000
  deriving DecidableEq, Repr, Inhabited

/-- How a run is set up. -/
structure Settings where
  suitesDir : String := "test-suites"
  reportsDir : String := "test-results"
  screenshotDir : String := "test-results/screenshots"
  /-- The file of the registry; without one, variables are kept in memory only. -/
  registryPath : Option String := none
  maxConcurrency : Nat := 3
  retry : RetryPolicy := {}
  /-- The time limit of one request, in milliseconds. -/
  requestLimit : Nat := 30000
  /-- The time limit of one piece of custom code, in milliseconds. -/
  codeLimit : Nat := 30000
  browser : BrowserSettings := {}
  deriving DecidableEq, Repr, Inhabited

namespace Settings

/-- Where the registry of a user is. -/
def registryOf (home : Option String) : String :=
  Path.join (Path.join (home.getD ".") ".testforge") "variables.db"

/-- The settings that nothing overrides. -/
def defaults (home : Option String) : Settings := { registryPath := some (registryOf home) }

/-! ## §1. Settings as documents. -/

open Decode

/-- The words for browsers. -/
def browserWords : List (String × Browser) :=
  [("chromium", .chromium), ("firefox", .firefox), ("webkit", .webkit)]

/-- The fields of browser settings. -/
def browserFields : List (RecordField BrowserSettings) := [
  may "browser" (choice (browserWords.map Prod.fst) browserWords) fun a s => { s with browser := a },
  may "headless" boolean fun a s => { s with headless := a },
  may "viewport_width" nat32 fun a s => { s with viewportWidth := a },
  may "viewport_height" nat32 fun a s => { s with viewportHeight := a },
  may "node_binary" text fun a s => { s with program := a },
  may "action_timeout_ms" nat64 fun a s => { s with actionLimit := a }]

/-- Read browser settings. -/
def decodeBrowser : Decoder BrowserSettings := record "struct PlaywrightConfig" browserFields {}

/-- The fields of settings. -/
def fields : List (RecordField Settings) := [
  may "suites_dir" Entry.path fun a s => { s with suitesDir := a },
  may "reports_dir" Entry.path fun a s => { s with reportsDir := a },
  may "screenshot_dir" Entry.path fun a s => { s with screenshotDir := a },
  may "registry_path" (optional Entry.path) fun a s => { s with registryPath := a },
  may "max_concurrency" size fun a s => { s with maxConcurrency := a },
  may "retry" RetryPolicy.decode fun a s => { s with retry := a },
  may "http_timeout_ms" nat64 fun a s => { s with requestLimit := a },
  may "custom_code_timeout_ms" nat64 fun a s => { s with codeLimit := a },
  may "playwright" decodeBrowser fun a s => { s with browser := a }]

/-- The document of browser settings. -/
def browserToJson (s : BrowserSettings) : Json := .obj [
  ("browser", .str s.browser.word), ("headless", .bool s.headless),
  ("viewport_width", Json.ofNat s.viewportWidth), ("viewport_height", Json.ofNat s.viewportHeight),
  ("node_binary", .str s.program), ("action_timeout_ms", Json.ofNat s.actionLimit)]

/-- The document of settings. -/
def toJson (s : Settings) : Json := .obj [
  ("suites_dir", .str s.suitesDir), ("reports_dir", .str s.reportsDir),
  ("screenshot_dir", .str s.screenshotDir), ("registry_path", Json.ofOption .str s.registryPath),
  ("max_concurrency", Json.ofNat s.maxConcurrency), ("retry", s.retry.toJson),
  ("http_timeout_ms", Json.ofNat s.requestLimit),
  ("custom_code_timeout_ms", Json.ofNat s.codeLimit), ("playwright", browserToJson s.browser)]

/-- **Settings from a configuration text;** `path` is named in what is said about faults. -/
def ofText (home : Option String) (path text : String) : Except Failure Settings :=
  match Toml.parse text with
  | .error e => .error (.config (path ++ ": " ++ e))
  | .ok v =>
    match Decode.ofJson (record "struct EngineConfig" fields (defaults home)) v with
    | .ok s => .ok s
    | .error e => .error (.config (path ++ ": " ++ e.message))

/-! ## §2. What the environment overrides. -/

/-- Settings that allow a run. -/
def checked (s : Settings) : Except Failure Settings :=
  if s.maxConcurrency = 0 then .error (.config "max_concurrency must be at least 1") else .ok s

/-- Words that say no. -/
def refusals : List String := ["0", "false", "no"]

/-- How many suites may run at a time, if the environment says so. -/
def concurrencyOf (s : Settings) : Option String → Except Failure Settings
  | none => .ok s
  | some n =>
    match natOfText? 0xffffffffffffffff n with
    | some k => .ok { s with maxConcurrency := k }
    | none => .error (.config ("TESTFORGE_MAX_CONCURRENCY: '" ++ n ++ "' is not a number"))

/-- Whether a text says yes. -/
def agrees (flag : String) : Bool := !refusals.contains (LetterCase.toLower flag)

/-- **Settings as the environment overrides them.** -/
def overridden (s : Settings) (env : String → Option String) : Except Failure Settings := do
  let s := { s with
    suitesDir := (env "TESTFORGE_SUITES_DIR").getD s.suitesDir,
    reportsDir := (env "TESTFORGE_REPORTS_DIR").getD s.reportsDir,
    registryPath := match env "TESTFORGE_REGISTRY" with
      | some path => if path.isEmpty then none else some path
      | none => s.registryPath }
  let s ← s.concurrencyOf (env "TESTFORGE_MAX_CONCURRENCY")
  let s := match env "TESTFORGE_HEADLESS" with
    | some flag => { s with browser := { s.browser with headless := agrees flag } }
    | none => s
  s.checked

end Settings

end SuiteRunner

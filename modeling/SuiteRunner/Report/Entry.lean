import SuiteRunner.Assertion.Outcome
import SuiteRunner.Report.Snapshot

/-!
  SuiteRunner.Report.Entry
  ────────────────────────────────
  **WHAT A REPORT SAYS OF ONE DATA ITEM OR ONE STEP.**
-/

namespace SuiteRunner

/-- How a unit of work ended. -/
inductive Status where
  | pass
  | fail
  | skipped
  deriving DecidableEq, Repr, Inhabited

/-- The word for an ending. -/
def Status.word : Status → String
  | .pass => "PASS"
  | .fail => "FAIL"
  | .skipped => "SKIPPED"

/-- The two kinds of units of work. -/
inductive UnitKind where
  | dataItem
  | step
  deriving DecidableEq, Repr, Inhabited

/-- The word for a kind of unit. -/
def UnitKind.word : UnitKind → String
  | .dataItem => "testData"
  | .step => "testStep"

/-- The report on one unit of work. -/
structure Entry where
  suiteId : String := ""
  suiteName : String := ""
  caseId : String := ""
  caseName : String := ""
  kind : UnitKind := .dataItem
  /-- The position of the unit in its case. -/
  index : Nat := 0
  name : String := ""
  status : Status := .fail
  /-- How many verdicts passed, and how many failed; both have 32 bits. -/
  assertionsPassed : Nat := 0
  assertionsFailed : Nat := 0
  /-- How long the unit took, in milliseconds. -/
  duration : Nat := 0
  error : Option String := none
  response : Option Snapshot := none
  screenshot : Option String := none
  deriving Inhabited

namespace Entry

open Decode

/-- The words for endings. -/
def statusWords : List (String × Status) :=
  [("PASS", .pass), ("FAIL", .fail), ("SKIPPED", .skipped)]

/-- The words for kinds of units. -/
def kindWords : List (String × UnitKind) := [("testData", .dataItem), ("testStep", .step)]

/-- A path. -/
def path : Decoder String := fun _ r =>
  match r with
  | .str s => formed s
  | r => mismatch "path string" r

/-- Read an entry. -/
def decode : Decoder Entry := record "struct ReportEntry" [
  must "suiteId" text fun a e => { e with suiteId := a },
  must "suiteName" text fun a e => { e with suiteName := a },
  must "testCaseId" text fun a e => { e with caseId := a },
  must "testCaseName" text fun a e => { e with caseName := a },
  must "unit" (choice (kindWords.map Prod.fst) kindWords) fun a e => { e with kind := a },
  must "index" size fun a e => { e with index := a },
  must "name" text fun a e => { e with name := a },
  must "status" (choice (statusWords.map Prod.fst) statusWords) fun a e => { e with status := a },
  must "assertionsPassed" nat32 fun a e => { e with assertionsPassed := a },
  must "assertionsFailed" nat32 fun a e => { e with assertionsFailed := a },
  must "durationMs" nat64 fun a e => { e with duration := a },
  may "error" (optional text) fun a e => { e with error := a },
  may "response" (optional Snapshot.decode) fun a e => { e with response := a },
  may "screenshot" (optional path) fun a e => { e with screenshot := a }] {}

/-- A member that is left out when there is nothing to say. -/
def memberIfAny {α : Type} (key : String) (f : α → Json) : Option α → List (String × Json)
  | none => []
  | some a => [(key, f a)]

/-- The document of an entry. -/
def toJson (e : Entry) : Json := .obj ([
  ("suiteId", .str e.suiteId), ("suiteName", .str e.suiteName), ("testCaseId", .str e.caseId),
  ("testCaseName", .str e.caseName), ("unit", .str e.kind.word), ("index", Json.ofNat e.index),
  ("name", .str e.name), ("status", .str e.status.word),
  ("assertionsPassed", Json.ofNat e.assertionsPassed),
  ("assertionsFailed", Json.ofNat e.assertionsFailed), ("durationMs", Json.ofNat e.duration)]
  ++ memberIfAny "error" .str e.error ++ memberIfAny "response" Snapshot.toJson e.response
  ++ memberIfAny "screenshot" .str e.screenshot)

end Entry

end SuiteRunner

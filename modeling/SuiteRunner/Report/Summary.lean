import SuiteRunner.Report.Entry

/-!
  SuiteRunner.Report.Summary
  ────────────────────────────────
  **COUNTS OVER A SUITE AND OVER A RUN.**

  The summary of a suite is a function of its entries.  A run adds up the summaries of its suites
  and counts a suite that could not run at all as one failure.
-/

namespace SuiteRunner

/-- The counts over the entries of a suite. -/
structure SuiteSummary where
  suiteName : String
  tags : List TextMap
  totalCases : Nat
  totalUnits : Nat
  passed : Nat
  failed : Nat
  skipped : Nat
  assertionsPassed : Nat
  assertionsFailed : Nat
  /-- How long the suite took, in milliseconds. -/
  duration : Nat

/-- The counts over a run. -/
structure RunSummary where
  total : Nat := 0
  passed : Nat := 0
  failed : Nat := 0
  skipped : Nat := 0
  /-- How long the run took, in milliseconds. -/
  duration : Nat := 0
  deriving DecidableEq, Repr, Inhabited

/-- A report: the counts and what they were counted from. -/
structure Report where
  summary : SuiteSummary
  entries : List Entry

/-! ## §1. Over the entries of a suite. -/

/-- How many entries ended in one way. -/
def countStatus (s : Status) (es : List Entry) : Nat := es.countP fun e => e.status == s

/-- The cases that entries belong to, each once. -/
def distinctCases (es : List Entry) : List (String × String) :=
  (es.map fun e => (e.caseId, e.caseName)).eraseDups

/-- The sum of counts, with 32 bits. -/
def sum32 (ns : List Nat) : Nat := ns.foldr (· + ·) 0 % countBound

/-- **The summary of entries.** -/
def SuiteSummary.of (name : String) (tags : List TextMap) (es : List Entry) (duration : Nat) :
    SuiteSummary :=
  { suiteName := name, tags := tags, totalCases := (distinctCases es).length,
    totalUnits := es.length, passed := countStatus .pass es, failed := countStatus .fail es,
    skipped := countStatus .skipped es, assertionsPassed := sum32 (es.map Entry.assertionsPassed),
    assertionsFailed := sum32 (es.map Entry.assertionsFailed), duration := duration }

/-- The report on entries. -/
def Report.of (name : String) (tags : List TextMap) (es : List Entry) (duration : Nat) : Report :=
  ⟨.of name tags es duration, es⟩

/-! ## §2. Over the suites of a run. -/

namespace RunSummary

/-- Add the counts of one suite. -/
def add (r : RunSummary) (s : SuiteSummary) : RunSummary :=
  { r with total := r.total + s.totalUnits, passed := r.passed + s.passed,
           failed := r.failed + s.failed, skipped := r.skipped + s.skipped }

/-- Count a suite that could not run. -/
def addFailedSuite (r : RunSummary) : RunSummary :=
  { r with total := r.total + 1, failed := r.failed + 1 }

/-- Whether nothing failed. -/
def success (r : RunSummary) : Bool := r.failed == 0

/-- The lines that are printed at the end of a run. -/
def render (r : RunSummary) : String :=
  "Total: " ++ toString r.total ++ "\n" ++ toString r.passed ++ " passed\n"
    ++ toString r.failed ++ " failed\nExecution time: " ++ toString r.duration ++ "ms"

/-- The document of a summary. -/
def toJson (r : RunSummary) : Json := .obj [
  ("total", Json.ofNat r.total), ("passed", Json.ofNat r.passed), ("failed", Json.ofNat r.failed),
  ("skipped", Json.ofNat r.skipped), ("executionTimeMs", Json.ofNat r.duration)]

end RunSummary

/-! ## §3. Documents and files. -/

/-- The document of the summary of a suite. -/
def SuiteSummary.toJson (s : SuiteSummary) : Json := .obj [
  ("suiteName", .str s.suiteName), ("tags", .arr (s.tags.map TextMap.toJson)),
  ("totalTestCases", Json.ofNat s.totalCases), ("totalDataSets", Json.ofNat s.totalUnits),
  ("passed", Json.ofNat s.passed), ("failed", Json.ofNat s.failed),
  ("skipped", Json.ofNat s.skipped), ("totalAssertionsPassed", Json.ofNat s.assertionsPassed),
  ("totalAssertionsFailed", Json.ofNat s.assertionsFailed),
  ("executionTimeMs", Json.ofNat s.duration)]

/-- The document of a report. -/
def Report.toJson (r : Report) : Json := .obj [
  ("summary", r.summary.toJson), ("results", .arr (r.entries.map Entry.toJson))]

/-- A character that stands for itself in the names of files. -/
def isFileNameChar (c : Char) : Bool := c.isAlphanum || c == '-' || c == '_'

/-- A text as part of the name of a file: what may not stand there becomes an underscore. -/
def fileStem (s : String) : String :=
  String.ofList (s.toList.map fun c => if isFileNameChar c then c else '_')

/-- The name of the file for a report. -/
def Report.fileName (suiteName stamp : String) : String :=
  fileStem suiteName ++ "-" ++ stamp ++ ".json"

end SuiteRunner

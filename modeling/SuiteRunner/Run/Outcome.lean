import SuiteRunner.Error
import SuiteRunner.Report.Summary

/-!
  SuiteRunner.Run.Outcome
  ────────────────────────────────
  **WHAT COMES OF A RUN.**

  Every suite file that a run takes up ends in one of three ways, and the outcome of the run is a
  function of these endings.  Counts add up and reports are sorted, so the outcome says nothing of
  the order in which suites ended, apart from the names of those that were left out.
-/

namespace SuiteRunner

/-- How a suite file of a run ended. -/
inductive SuiteEnding where
  /-- It ran, and its report is in a file. -/
  | completed (summary : SuiteSummary) (report : String)
  /-- The filters left it out. -/
  | filtered (name : String)
  /-- It could not be loaded, run or reported on. -/
  | broken (failure : Failure)

/-- The outcome of a run. -/
structure RunOutcome where
  summary : RunSummary := {}
  /-- The paths of the reports. -/
  reports : List String := []
  /-- The names of the suites that the filters left out. -/
  skipped : List String := []
  deriving Inhabited

namespace RunOutcome

/-- The outcome with one more ending. -/
def add (o : RunOutcome) : SuiteEnding → RunOutcome
  | .completed summary report =>
    { o with summary := o.summary.add summary, reports := o.reports ++ [report] }
  | .filtered name => { o with skipped := o.skipped ++ [name] }
  | .broken _ => { o with summary := o.summary.addFailedSuite }

/-- The outcome with its reports in the order of their paths. -/
def sorted (o : RunOutcome) : RunOutcome :=
  { o with reports := o.reports.mergeSort fun a b => decide (a ≤ b) }

/-- **The outcome of endings.** -/
def ofEndings (es : List SuiteEnding) : RunOutcome := (es.foldl add {}).sorted

/-- The totals that are printed at the end of a run; a run that failed as a whole has none. -/
def totals (r : Except Failure RunOutcome) (duration : Nat) : RunSummary :=
  match r with
  | .ok o => { o.summary with duration := duration }
  | .error _ => { duration := duration }

end RunOutcome

end SuiteRunner

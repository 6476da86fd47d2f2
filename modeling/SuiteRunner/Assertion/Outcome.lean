/-!
  SuiteRunner.Assertion.Outcome
  ────────────────────────────────
  **COUNTING VERDICTS.**

  An outcome counts what passed and what failed and keeps one text for each failure, in order.
  Where counts are kept, they have 32 bits.  They are counted without a bound here, which is the
  same for fewer verdicts than `countBound`.
-/

namespace SuiteRunner

/-- The numbers below this one have 32 bits. -/
def countBound : Nat := 0x100000000

/-- How often assertions passed and failed, with a text for each failure. -/
structure Outcome where
  passed : Nat := 0
  failed : Nat := 0
  errors : List String := []
  deriving DecidableEq, Repr, Inhabited

/-- The verdict on one assertion: why it failed, or nothing. -/
abbrev Verdict := Except String Unit

namespace Outcome

/-- The outcome without verdicts. -/
def empty : Outcome := {}

/-- One more that failed. -/
def fail (o : Outcome) (message : String) : Outcome :=
  { o with failed := o.failed + 1, errors := o.errors ++ [message] }

/-- One more verdict. -/
def record (o : Outcome) : Verdict → Outcome
  | .ok () => { o with passed := o.passed + 1 }
  | .error message => o.fail message

/-- Two outcomes, one after the other. -/
def merge (a b : Outcome) : Outcome :=
  { passed := a.passed + b.passed, failed := a.failed + b.failed, errors := a.errors ++ b.errors }

/-- The outcome of verdicts in order. -/
def ofVerdicts (vs : List Verdict) : Outcome := vs.foldl record empty

end Outcome

end SuiteRunner

/-!
  SuiteRunner.Rehearsal.Rule
  ────────────────────────────────
  **SCRIPTED ANSWERS.**

  A script is an ordered list of rules.  The first rule that fits a question and is not used up
  answers it; a rule may have a number of answers, or no end of them.
-/

namespace SuiteRunner.Rehearsal

/-- A rule: which questions it fits, how many answers it has left, and its answer. -/
structure Rule (κ α : Type) where
  fits : κ → Bool
  left : Option Nat
  answer : α

variable {κ α : Type}

/-- Whether a rule answers a question. -/
def Rule.answers (r : Rule κ α) (q : κ) : Bool := r.left != some 0 && r.fits q

/-- A rule after one more answer. -/
def Rule.spend (r : Rule κ α) : Rule κ α := { r with left := r.left.map (· - 1) }

/-- **The answer of a script,** and the script with that answer spent. -/
def consult (q : κ) : List (Rule κ α) → Option α × List (Rule κ α)
  | [] => (none, [])
  | r :: rest =>
    if r.answers q then (some r.answer, r.spend :: rest)
    else
      let (a, rest) := consult q rest
      (a, r :: rest)

end SuiteRunner.Rehearsal

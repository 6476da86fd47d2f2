import SuiteRunner.Assertion.OnJson
import SuiteRunner.Assertion.OnXml
import SuiteRunner.Proofs.Variables.Lookups

/-!
  SuiteRunner.Proofs.Assertion.Verdicts
  ────────────────────────────────
  **ONE VERDICT FOR EACH ASSERTION, AND EACH COUNTED ONCE.**

  An outcome is built up by recording verdicts and by merging outcomes.  `Outcome.total` is the
  number of verdicts in it, passed and failed together:

    • `Outcome.total_record`, `Outcome.total_merge`, … — what each operation adds to it,
    • `Assertion.total_evaluateOnJson` — assertions on a JSON body count one each,
    • `Assertion.total_evaluateOnXml` — those on an XML body too, and one more counts for a text
      that is no document.

  Judging a response only looks variables up, so the verdict on an assertion is a function of what
  its owner reads.  The assertions before it, and how often they look, do not matter.

    • `Outcome.ofVerdicts_eq` — what an outcome counts, and its errors in order,
    • `Assertion.looks_evaluateOnJson`, `Assertion.looks_evaluateOnXml` — the outcome is that of the
      verdicts, one for each assertion.
-/

namespace SuiteRunner

open Store (Looks looks_inject looks_injectJson)
open Template (injectBy injectJsonBy)

/-! ## §1. Counting in outcomes. -/

namespace Outcome

/-- The number of verdicts in an outcome. -/
def total (o : Outcome) : Nat := o.passed + o.failed

theorem total_fail (o : Outcome) (message : String) : (o.fail message).total = o.total + 1 := by
  show o.passed + (o.failed + 1) = o.passed + o.failed + 1
  omega

/-- Each verdict counts once. -/
theorem total_record (o : Outcome) (v : Verdict) : (o.record v).total = o.total + 1 := by
  cases v with
  | ok u =>
    show o.passed + 1 + o.failed = o.passed + o.failed + 1
    omega
  | error message => exact total_fail o message

theorem total_merge (a b : Outcome) : (a.merge b).total = a.total + b.total := by
  show a.passed + b.passed + (a.failed + b.failed) = a.passed + a.failed + (b.passed + b.failed)
  omega

/-- **As many assertions are counted as there are verdicts.** -/
theorem total_foldl (vs : List Verdict) (o : Outcome) :
    (vs.foldl record o).total = o.total + vs.length := by
  induction vs generalizing o with
  | nil => rfl
  | cons v rest ih =>
    rw [List.foldl_cons, ih, total_record, List.length_cons]
    omega

/-- **An outcome has as many verdicts as it was made of.** -/
theorem total_ofVerdicts (vs : List Verdict) : (ofVerdicts vs).total = vs.length := by
  show (vs.foldl record empty).total = vs.length
  rw [total_foldl]
  show 0 + vs.length = vs.length
  omega

end Outcome

/-! ## §2. The evaluators. -/

namespace Assertion

/-- There is one verdict for each assertion on a JSON body. -/
theorem length_verdictsOnJson (o : Owner) (body : Option Json) (status : Nat)
    (as_ : List Assertion) (s : Store) :
    (verdictsOnJson o body status as_ s).1.length = as_.length := by
  induction as_ generalizing s with
  | nil => rfl
  | cons a rest ih =>
    show (verdictsOnJson o body status rest (Store.injectJson o a.expected s).2).1.length + 1 = _
    rw [ih, List.length_cons]

/-- There is one for each on an XML body, too. -/
theorem length_verdictsOnXml (o : Owner) (d : Option Xml.Document) (status : Nat)
    (as_ : List Assertion) (s : Store) :
    (verdictsOnXml o d status as_ s).1.length = as_.length := by
  induction as_ generalizing s with
  | nil => rfl
  | cons a rest ih =>
    show (verdictsOnXml o d status rest (verdictOnXml o d status a s).2).1.length + 1 = _
    rw [ih, List.length_cons]

/-- **On a JSON body** every assertion counts once. -/
theorem total_evaluateOnJson (o : Owner) (body : Option Json) (status : Nat)
    (as_ : List Assertion) (s : Store) :
    (evaluateOnJson o body status as_ s).1.total = as_.length := by
  show (Outcome.ofVerdicts (verdictsOnJson o body status as_ s).1).total = as_.length
  rw [Outcome.total_ofVerdicts, length_verdictsOnJson]

/-- **On an XML body** every assertion counts once, and so does a text that is no document. -/
theorem total_evaluateOnXml (o : Owner) (text : String) (status : Nat) (as_ : List Assertion)
    (s : Store) :
    (evaluateOnXml o text status as_ s).1.total
      = as_.length + if Xml.Document.ofText? text = none then 1 else 0 := by
  unfold evaluateOnXml
  show (Outcome.ofVerdicts (_ ++ (verdictsOnXml o _ status as_ s).1)).total = _
  rw [Outcome.total_ofVerdicts, List.length_append, length_verdictsOnXml]
  -- a text that is no document is recorded before the verdicts on the assertions
  cases Xml.Document.ofText? text with
  | none =>
    rw [if_pos rfl]
    show 1 + as_.length = as_.length + 1
    omega
  | some d =>
    rw [if_neg (fun h => by cases h)]
    show 0 + as_.length = as_.length + 0
    omega

end Assertion

/-! ## §3. What an outcome says of its verdicts. -/

namespace Outcome

/-- The error of a verdict, if it failed. -/
def error? : Verdict → Option String
  | .ok _ => none
  | .error message => some message

/-- **Verdicts are counted and their errors listed,** in their order. -/
theorem foldl_record (vs : List Verdict) (o : Outcome) :
    vs.foldl record o
      = { passed := o.passed + vs.countP fun v => (error? v).isNone
          failed := o.failed + (vs.filterMap error?).length
          errors := o.errors ++ vs.filterMap error? } := by
  induction vs generalizing o with
  | nil => simp
  | cons v vs ih =>
    rw [List.foldl_cons, ih]
    cases v with
    | ok u =>
      simp [record, error?, List.filterMap_cons]
      omega
    | error message =>
      simp [record, fail, error?]
      omega

/-- **An outcome counts the verdicts with and without errors,** and keeps the errors in order. -/
theorem ofVerdicts_eq (vs : List Verdict) :
    ofVerdicts vs
      = { passed := vs.countP fun v => (error? v).isNone
          failed := (vs.filterMap error?).length
          errors := vs.filterMap error? } := by
  unfold ofVerdicts
  rw [foldl_record]
  simp [empty]

end Outcome

namespace Assertion

variable (o : Owner) (status : Nat)

/-! ## §4. Assertions on JSON bodies. -/

/-- The verdict on an assertion, by the values that names have. -/
def verdictBy (body : Option Json) (g : String → Option String) (a : Assertion) : Verdict :=
  a.checkJson (injectJsonBy g a.expected) body status

/-- Each assertion is judged by what is read at first, whatever those before it looked up. -/
theorem looks_verdictsOnJson (body : Option Json) (as_ : List Assertion) :
    Looks o (verdictsOnJson o body status as_) fun g => as_.map (verdictBy status body g) := by
  induction as_ with
  | nil => exact .give []
  | cons a rest ih =>
    exact (looks_injectJson o a.expected).bind fun expected =>
      ih.map fun vs => a.checkJson expected body status :: vs

/-- **The outcome on a JSON body** is that of the verdicts on the assertions. -/
theorem looks_evaluateOnJson (body : Option Json) (as_ : List Assertion) :
    Looks o (evaluateOnJson o body status as_) fun g =>
      .ofVerdicts (as_.map (verdictBy status body g)) :=
  (looks_verdictsOnJson o status body as_).map Outcome.ofVerdicts

/-! ## §5. Assertions on XML bodies. -/

/-- The verdict on one assertion whose expected value is filled. -/
def verdictOnFilled (d : Option Xml.Document) (a : Assertion) (expected : Json) (s : Store) :
    Verdict × Store :=
  match a.kind, d, a.xpathExpression with
  | .statusCode, _, _ => (checkStatus expected status, s)
  | kind, none, _ => (.error (kind.word ++ ": no XML document to evaluate"), s)
  | kind, some _, none => (.error (kind.word ++ ": missing xpathExpression"), s)
  | kind, some d, some expression =>
    let (expression, s) := s.inject o expression
    (checkXml kind expression (valueText expected) d, s)

/-- The same by the values that names have. -/
def verdictOnFilledBy (d : Option Xml.Document) (a : Assertion) (expected : Json)
    (g : String → Option String) : Verdict :=
  match a.kind, d, a.xpathExpression with
  | .statusCode, _, _ => checkStatus expected status
  | kind, none, _ => .error (kind.word ++ ": no XML document to evaluate")
  | kind, some _, none => .error (kind.word ++ ": missing xpathExpression")
  | kind, some d, some expression => checkXml kind (injectBy g expression) (valueText expected) d

theorem looks_verdictOnFilled (d : Option Xml.Document) (a : Assertion) (expected : Json) :
    Looks o (verdictOnFilled o status d a expected) (verdictOnFilledBy status d a expected) := by
  unfold verdictOnFilled verdictOnFilledBy
  split
  · exact .give _
  · exact .give _
  · exact .give _
  · exact (looks_inject o _).map fun expression => checkXml _ expression _ _

/-- The verdict on an assertion, by the values that names have. -/
def verdictOnXmlBy (d : Option Xml.Document) (g : String → Option String) (a : Assertion) :
    Verdict :=
  verdictOnFilledBy status d a (injectJsonBy g a.expected) g

theorem looks_verdictOnXml (d : Option Xml.Document) (a : Assertion) :
    Looks o (verdictOnXml o d status a) fun g => verdictOnXmlBy status d g a :=
  (looks_injectJson o a.expected).bind (looks_verdictOnFilled o status d a)

/-- The verdict on a text that is no document. -/
def malformed : Option Xml.Document → List Verdict
  | some _ => []
  | none => [.error "response is not well-formed XML: no document could be read"]

/-- Each assertion on an XML body is judged by what is read at first. -/
theorem looks_verdictsOnXml (d : Option Xml.Document) (as_ : List Assertion) :
    Looks o (verdictsOnXml o d status as_) fun g => as_.map (verdictOnXmlBy status d g) := by
  induction as_ with
  | nil => exact .give []
  | cons a rest ih =>
    exact (looks_verdictOnXml o status d a).bind fun v => ih.map fun vs => v :: vs

/-- **The outcome on an XML body** is that of the verdicts on the assertions, after one on a text
that is no document. -/
theorem looks_evaluateOnXml (text : String) (as_ : List Assertion) :
    Looks o (evaluateOnXml o text status as_) fun g =>
      .ofVerdicts (malformed (Xml.Document.ofText? text)
        ++ as_.map (verdictOnXmlBy status (Xml.Document.ofText? text) g)) := by
  have h := (looks_verdictsOnXml o status (Xml.Document.ofText? text) as_).map fun vs =>
    Outcome.ofVerdicts (malformed (Xml.Document.ofText? text) ++ vs)
  exact h

end Assertion

end SuiteRunner

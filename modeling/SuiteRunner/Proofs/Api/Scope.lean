import SuiteRunner.Api.Run
import SuiteRunner.Proofs.Assertion.Verdicts
import SuiteRunner.Proofs.PreProcess.Apart
import SuiteRunner.Proofs.Variables.Ownership

/-!
  SuiteRunner.Proofs.Api.Scope
  ────────────────────────────────
  **ITEMS REACH VARIABLES THROUGH THE SCOPE OF THEIR CASE.**

  A task is scoped if it reads and writes variables through the scope of one owner and in no other
  way.  So it touches no local variable of another owner, and does not see what others have:

    • `Task.Scoped.untouched`, `Task.Scoped.blind` — the two facts, from those on stores,
    • `PreProcess.scoped_runAll` — what runs before a request or a step is scoped,
    • `Api.scoped_runCase` — so is a case of an API suite, by the ids of the suite and the case.
-/

namespace SuiteRunner

open Store (Through SameLocals SameBut)

/-! ## §1. Scoped tasks. -/

namespace Task

variable {o p : Owner} {α : Type}

/-- A task that does one thing through the scope of an owner. -/
inductive OnScope (o : Owner) : (α : Type) → Task Store α → Prop where
  | update {α : Type} {f : Store → α × Store} (h : Through o f) : OnScope o α (Task.update f)

/-- **A task that reaches variables through the scope of an owner alone.** -/
abbrev Scoped (o : Owner) (t : Task Store α) : Prop := Built (OnScope o) t

namespace Scoped

/-- What is done through the scope of an owner is a scoped task. -/
theorem update {f : Store → α × Store} (h : Through o f) : Scoped o (Task.update f) :=
  .small (.update h)

/-- A change that has no result goes through the scope as an update does. -/
theorem change {f : Store → Store} (h : Through o fun s => ((), f s)) :
    Scoped o (modify f : Task Store PUnit) :=
  update h

/-- **The local variables of other owners stay as they are.** -/
theorem untouched {t : Task Store α} (h : Scoped o t) (hp : p ≠ o) : Keeps (SameLocals p) t := by
  refine h.keeps (SameLocals.refl p) SameLocals.trans ?_
  rintro α _ ⟨hthrough⟩ s log r s' hruns
  obtain ⟨-, -, rfl⟩ := runs_update_iff.mp hruns
  exact hthrough.untouched hp s

/-- **What other owners have is not seen.** -/
theorem blind {t : Task Store α} (h : Scoped o t) (hp : o ≠ p) : InStep (SameBut p) t := by
  refine h.inStep ?_
  rintro α _ ⟨hthrough⟩ s u log r s' hsame hruns
  obtain ⟨rfl, rfl, rfl⟩ := runs_update_iff.mp hruns
  obtain ⟨hresult, hnext⟩ := hthrough.blind hp hsame
  exact ⟨_, runs_update_iff.mpr ⟨rfl, congrArg Except.ok hresult, rfl⟩, hnext⟩

end Scoped

end Task

open SuiteRunner.Task (Scoped)

/-! ## §2. What runs before. -/

namespace PreProcess

/-- Arguments are filled through the scope, one after another. -/
theorem through_fillArguments (o : Owner) (args : List Json) :
    Through o (fillArguments o args) := by
  induction args with
  | nil => exact .give []
  | cons a rest ih =>
    exact .bind (Store.through_inject o (valueText a)) fun t => .map ih fun ts => t :: ts

/-- Outputs are written through the scope, global ones too: these are local to nobody. -/
theorem through_writeAll (o : Owner) (scope : Scope) (pairs : List (String × String)) :
    Through o fun s => ((), writeAll o scope pairs s) := by
  induction pairs with
  | nil => exact .give ()
  | cons pair rest ih => exact .bind (.set scope pair.1 pair.2) fun _ => ih

/-- **What runs before a request or a step is scoped,** whatever the scope of its outputs. -/
theorem scoped_runAll (setup : PreProcessSetup) (o : Owner) (steps : List PreProcessStep) :
    Scoped o (runAll setup o steps) := by
  induction steps with
  | nil => exact .pure ()
  | cons step rest ih =>
    have hevaluate : Scoped o (evaluate setup o step) :=
      .bind (Scoped.update (through_fillArguments o step.args)) fun args =>
        .mapFailure (.stateless (aside_output setup step.function args).toStateless) _
    have hstep : Scoped o (runStep setup o step) :=
      .bind hevaluate fun _ => Scoped.change (through_writeAll o _ _)
    exact .bind hstep fun _ => ih

end PreProcess

/-! ## §3. Assertions. -/

namespace Assertion

variable (o : Owner) (status : Nat)

/-- Assertions on a JSON body look up what they expect, and that is all they do to the store. -/
theorem through_evaluateOnJson (body : Option Json) (as_ : List Assertion) :
    Through o (evaluateOnJson o body status as_) := by
  have hverdicts : Through o (verdictsOnJson o body status as_) := by
    induction as_ with
    | nil => exact .give []
    | cons a rest ih =>
      exact .bind (Store.through_injectJson o a.expected) fun expected =>
        .map ih fun vs => a.checkJson expected body status :: vs
  exact .map hverdicts Outcome.ofVerdicts

/-- What is expected is filled by then; a path or a pattern may still have placeholders. -/
theorem through_verdictOnFilled (d : Option Xml.Document) (a : Assertion) (expected : Json) :
    Through o (verdictOnFilled o status d a expected) := by
  unfold verdictOnFilled
  split
  · exact .give _
  · exact .give _
  · exact .give _
  · exact .map (Store.through_inject o _) fun expression => checkXml _ expression _ _

/-- An assertion on an XML body fills what it expects and is judged. -/
theorem through_verdictOnXml (d : Option Xml.Document) (a : Assertion) :
    Through o (verdictOnXml o d status a) :=
  .bind (Store.through_injectJson o a.expected) (through_verdictOnFilled o status d a)

/-- Assertions on an XML body reach the store in the same way as those on a JSON body. -/
theorem through_evaluateOnXml (text : String) (as_ : List Assertion) :
    Through o (evaluateOnXml o text status as_) := by
  have hverdicts : ∀ d, Through o (verdictsOnXml o d status as_) := by
    intro d
    induction as_ with
    | nil => exact .give []
    | cons a rest ih =>
      exact .bind (through_verdictOnXml o status d a) fun v => .map ih fun vs => v :: vs
  exact .map (hverdicts (Xml.Document.ofText? text)) fun vs => Outcome.ofVerdicts (_ ++ vs)

end Assertion

/-! ## §4. Items. -/

namespace Api

variable (o : Owner)

/-- Headers are filled through the scope, one after another. -/
theorem through_fillHeaders (headers : List (String × String)) :
    Through o (fillHeaders o headers) := by
  induction headers with
  | nil => exact .give []
  | cons header rest ih =>
    exact .bind (Store.through_inject o header.2) fun v => .map ih fun more => (header.1, v) :: more

/-- Reading a file of an item has nothing to do with variables. -/
theorem stateless_readFile (setup : ApiSetup) (file : String) :
    (readFile setup file).Stateless := by
  refine .bind (.ask _) fun answer => ?_
  cases answer with
  | ok text => exact .pure text
  | error reason => exact .throw _

/-- A body that is a text is filled as one text. -/
theorem scoped_textBody (text : String) : Scoped o (textBody o text) :=
  .bind (Scoped.update (Store.through_inject o text)) fun _ => .pure _

/-- A body that is a document is filled in all its texts. -/
theorem scoped_documentBody (v : Json) : Scoped o (documentBody o v) :=
  .bind (Scoped.update (Store.through_injectJson o v)) fun _ => .pure _

/-- **The body of an item is made through the scope,** wherever it comes from. -/
theorem scoped_bodyOf (setup : ApiSetup) (item : DataItem) (soap : Bool) :
    Scoped o (bodyOf setup o item soap) := by
  unfold bodyOf
  split
  · refine .bind (.stateless (stateless_readFile setup _)) fun text => ?_
    split
    · exact scoped_textBody o text
    · exact .bind (.ofExcept _) fun v => scoped_documentBody o v
  · exact .pure _
  · exact .pure _
  · split
    · exact scoped_textBody o _
    · exact scoped_documentBody o _
  · exact scoped_documentBody o _

/-- A schema is taken as it is, so it has nothing to do with variables. -/
theorem stateless_schemaOf (setup : ApiSetup) (item : DataItem) (soap : Bool) :
    (schemaOf setup item soap).Stateless := by
  unfold schemaOf
  split
  · exact .pure _
  · split
    · exact .bind (stateless_readFile setup _) fun _ => .bind (.ofExcept _) fun _ => .pure _
    · exact .pure _

/-- **The exchange of an item is scoped:** each of its stages is, in the order in which they follow.
-/
theorem scoped_exchange (setup : ApiSetup) (suite : Suite) (c : TestCase) (item : DataItem) :
    Scoped o (exchange setup suite c o item) := by
  refine .bind (Scoped.update (Store.through_inject o _)) fun address => ?_
  refine .bind (PreProcess.scoped_runAll _ o item.preProcess) fun _ => ?_
  refine .bind (Scoped.update (through_fillHeaders o item.headers.entries)) fun headers => ?_
  refine .bind (scoped_bodyOf o setup item _) fun body => ?_
  refine .bind (.stateless (stateless_schemaOf setup item _)) fun schema => ?_
  refine .bind (.ofExcept _) fun request => ?_
  exact .bind (.stateless (.errand _)) fun answer => .bind (.ofExcept answer) fun _ => .pure _

/-- A response is judged through the scope, by whichever assertions its kind asks for. -/
theorem through_judge (item : DataItem) (x : Exchange) : Through o (judge o item x) := by
  unfold judge
  cases x.soap with
  | true => exact Assertion.through_evaluateOnXml o _ x.text item.assertions
  | false => exact .map (Assertion.through_evaluateOnJson o _ x.document? item.assertions) _

/-- A variable is written for a value that was found, and for none the outcome fails. -/
def storeFound (name : String) (outcome : Outcome) (found : Except String Json) (s : Store) :
    Outcome × Store :=
  match found with
  | .ok v => (outcome, s.setGlobal name (valueText v))
  | .error e => (outcome.fail e, s)

/-- A value of a response becomes a global variable, which is none of any other owner. -/
theorem through_storeFound (name : String) (outcome : Outcome) (found : Except String Json) :
    Through o (storeFound name outcome found) := by
  cases found with
  | ok v =>
    have hset : Through o fun s => ((), s.set o .global name (valueText v)) := .set _ _ _
    exact hset.map fun _ => outcome
  | error e => exact .give (outcome.fail e)

/-- One directive fills its path and then stores what is found. -/
theorem through_storeOne (document : Option Json) (name path : String) (outcome : Outcome) :
    Through o (storeOne o document name path outcome) :=
  .bind (Store.through_inject o path) fun path =>
    through_storeFound o name outcome (stored name path document)

/-- All directives go through the scope, whatever the outcome was before them. -/
theorem through_storeAll (document : Option Json) (directives : List (String × String)) :
    ∀ outcome, Through o (storeAll o document directives outcome) := by
  induction directives with
  | nil => exact fun outcome => .give outcome
  | cons directive rest ih =>
    exact fun outcome => .bind (through_storeOne o document directive.1 directive.2 outcome) ih

/-- **An item is scoped,** whether it gets a response or not. -/
theorem scoped_runItem (setup : ApiSetup) (suite : Suite) (c : TestCase) (index : Nat)
    (item : DataItem) : Scoped ⟨suite.id, c.id⟩ (runItem setup suite c index item) := by
  refine .bind (.ask _) fun started => ?_
  refine .bind (.result (scoped_exchange _ setup suite c item)) fun r => ?_
  have hconclude : ∀ x, Through ⟨suite.id, c.id⟩ (conclude ⟨suite.id, c.id⟩ item x) := fun x =>
    .bind (through_judge _ item x) (through_storeAll _ x.document? item.store.entries)
  cases r with
  | ok x =>
    exact .bind (Scoped.update (hconclude x)) fun _ =>
      .bind (.pure _) fun _ => .bind (.ask _) fun _ => .pure _
  | error f => exact .bind (.pure _) fun _ => .bind (.ask _) fun _ => .pure _

/-- Items in a row are scoped, wherever the first of them stands. -/
theorem scoped_runItems (setup : ApiSetup) (suite : Suite) (c : TestCase) (items : List DataItem) :
    ∀ index, Scoped ⟨suite.id, c.id⟩ (runItems setup suite c index items) := by
  induction items with
  | nil => exact fun _ => .pure []
  | cons item rest ih =>
    exact fun index => .bind (scoped_runItem setup suite c index item) fun _ =>
      .bind (ih (index + 1)) fun _ => .pure _

/-- **A case of an API suite is scoped,** whatever its items say. -/
theorem scoped_runCase (setup : ApiSetup) (suite : Suite) (c : TestCase) :
    Scoped ⟨suite.id, c.id⟩ (runCase setup suite c) :=
  scoped_runItems setup suite c c.data 0

end Api

end SuiteRunner

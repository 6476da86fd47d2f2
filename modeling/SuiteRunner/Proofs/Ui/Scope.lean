import SuiteRunner.Proofs.Api.Scope
import SuiteRunner.Rehearsal.Custom
import SuiteRunner.Ui.Run

/-!
  SuiteRunner.Proofs.Ui.Scope
  ────────────────────────────────
  **STEPS REACH VARIABLES THROUGH THE SCOPE OF THEIR CASE.**

  A task on a stage has the session at its hands and the variables of the run; it is scoped if it
  does with the session what it likes, and with the variables only what can be done through the
  scope of one owner.

    • `Stage.Scoped.untouched`, `Stage.Scoped.blind` — what follows for the variables of others,
    • `Rehearsal.Registered.code_scoped` — custom code that is scripted is scoped,
    • `Ui.scoped_caseOnStage` — so is a test case, if custom code is.
-/

namespace SuiteRunner

open Store (Through SameLocals SameBut)
open SuiteRunner.Task (Built Keeps InStep)

/-! ## §1. Scoped tasks on a stage. -/

namespace Stage

variable {o p : Owner} {α : Type}

/-- A task that does one thing with the session, or with the variables through a scope. -/
inductive OnScope (o : Owner) : (α : Type) → Task Stage α → Prop where
  | glance : OnScope o Session (Task.update fun g => (g.session, g))
  | onSession {α : Type} (t : Task Session α) : OnScope o α (Stage.onSession t)
  | onStore {α : Type} {t : Task Store α} (h : Task.Scoped o t) : OnScope o α (Stage.onStore t)

/-- **A task on a stage that reaches variables through the scope of an owner alone.** -/
abbrev Scoped (o : Owner) (t : Task Stage α) : Prop := Built (OnScope o) t

/-- Two stages with one session, and with stores that differ in local variables of one owner. -/
structure SameBut (o : Owner) (g h : Stage) : Prop where
  session : g.session = h.session
  store : Store.SameBut o g.store h.store

namespace Scoped

/-- Whatever is done with the session is scoped. -/
theorem onSession (t : Task Session α) : Scoped o (Stage.onSession t) := .small (.onSession t)

/-- What is done with the variables is scoped if it goes through the scope. -/
theorem onStore {t : Task Store α} (h : Task.Scoped o t) : Scoped o (Stage.onStore t) :=
  .small (.onStore h)

/-- What is done after a look at the stage, if only the session matters to it. -/
theorem look {f : Stage → Task Stage α} (hf : ∀ g, Scoped o (f g))
    (hsession : ∀ g h, g.session = h.session → f g = f h) : Scoped o (get >>= f) := by
  -- what `f` is given of the stage beside its session may be anything
  have hglance : (get >>= f : Task Stage α) =
      Task.update (fun g => (g.session, g)) >>= fun s => f ⟨s, default⟩ := by
    funext g
    exact congrFun (hsession g ⟨g.session, default⟩ rfl) g
  rw [hglance]
  exact Built.bind (.small .glance) fun s => hf ⟨s, default⟩

/-- **The local variables of other owners stay as they are.** -/
theorem untouched {t : Task Stage α} (h : Scoped o t) (hp : p ≠ o) :
    Keeps (fun g g' => SameLocals p g.store g'.store) t := by
  refine h.keeps (fun g => .refl p g.store) SameLocals.trans ?_
  intro α t hsmall g log r g' hruns
  cases hsmall with
  | glance =>
    obtain ⟨-, -, rfl⟩ := Task.runs_update_iff.mp hruns
    exact .refl p _
  | onSession t =>
    obtain ⟨m, -, rfl⟩ := Task.runs_focus_iff.mp hruns
    exact .refl p _
  | onStore ht =>
    obtain ⟨m, hm, rfl⟩ := Task.runs_focus_iff.mp hruns
    exact ht.untouched hp _ _ _ _ hm

/-- **What other owners have is not seen.** -/
theorem blind {t : Task Stage α} (h : Scoped o t) (hp : o ≠ p) : InStep (SameBut p) t := by
  refine h.inStep ?_
  intro α t hsmall g g₂ log r g' hsame hruns
  cases hsmall with
  | glance =>
    obtain ⟨rfl, rfl, rfl⟩ := Task.runs_update_iff.mp hruns
    exact ⟨g₂, Task.runs_update_iff.mpr ⟨rfl, by rw [hsame.session], rfl⟩, hsame⟩
  | onSession t =>
    obtain ⟨m, hm, rfl⟩ := Task.runs_focus_iff.mp hruns
    rw [hsame.session] at hm
    exact ⟨_, Task.runs_focus_iff.mpr ⟨m, hm, rfl⟩, ⟨rfl, hsame.store⟩⟩
  | onStore ht =>
    obtain ⟨m, hm, rfl⟩ := Task.runs_focus_iff.mp hruns
    obtain ⟨m₂, hm₂, hstore⟩ := ht.blind hp _ _ _ _ _ hsame.store hm
    exact ⟨_, Task.runs_focus_iff.mpr ⟨m₂, hm₂, rfl⟩, ⟨hsame.session, hstore⟩⟩

end Scoped

end Stage

/-! ## §2. Custom code. -/

open SuiteRunner.Stage (Scoped)

/-- **Custom code that reaches variables through the scope of an owner alone.** -/
structure CustomCode.Scoped (o : Owner) (c : CustomCode) : Prop where
  steps : ∀ {name run}, c.steps name = some run → ∀ s args, Stage.Scoped o (run s args)
  pageObjects : ∀ {cls make}, c.pageObjects cls = some make →
    ∀ page method s args, Stage.Scoped o (make page method s args)
  plugins : ∀ {name run}, c.plugins name = some run → ∀ limit s, Stage.Scoped o (run limit s)

namespace CustomCode

variable {c : CustomCode} {o : Owner}

/-- A call of custom code is scoped if custom code is. -/
theorem Scoped.callStep (hc : c.Scoped o) (s : Step) (call : CustomCall) :
    Stage.Scoped o (c.callStep s call) := by
  unfold CustomCode.callStep
  cases hrun : c.steps call.function with
  | some run => exact hc.steps hrun s call.args
  | none =>
    cases Text.splitOnce? '.' call.function with
    | none => exact .throw _
    | some parts =>
      obtain ⟨cls, method⟩ := parts
      dsimp only
      cases hmake : c.pageObjects cls with
      | none => exact .throw _
      | some make =>
        exact .bind (Stage.Scoped.onSession _) fun page => hc.pageObjects hmake page method s call.args

theorem Scoped.pluginOf (hc : c.Scoped o) {s : Step} {run : Nat → Step → Task Stage (Option Json)}
    (h : c.pluginOf? s = some run) (limit : Nat) : Stage.Scoped o (run limit s) := by
  unfold pluginOf? at h
  cases hid : c.plugins s.id with
  | some found =>
    rw [hid] at h
    cases h
    exact hc.plugins hid limit s
  | none =>
    rw [hid] at h
    obtain ⟨name, -, hname⟩ := Option.bind_eq_some_iff.mp h
    exact hc.plugins hname limit s

/-- A step that no plugin takes fails, and has touched nothing by then. -/
theorem Scoped.runPlugin (hc : c.Scoped o) (limit : Nat) (s : Step) :
    Stage.Scoped o (c.runPlugin limit s) := by
  unfold CustomCode.runPlugin
  cases hrun : c.pluginOf? s with
  | none => exact .throw _
  | some run =>
    refine .bind (.mapFailure (hc.pluginOf hrun limit) _) fun v => ?_
    cases v with
    | some v => exact .pure v
    | none => exact .throw _

end CustomCode

namespace Rehearsal

variable {o : Owner}

theorem scoped_pause (ms : Nat) : Scoped o (Behaviour.pause ms) := by
  unfold Behaviour.pause
  split
  · exact .pure ()
  · exact .ask _

/-- **A scripted behaviour is scoped:** it calls elements, waits, and gives a value or fails. -/
theorem scoped_run (b : Rehearsal.Behaviour) (input : Json) : Scoped o (b.run input) := by
  refine .bind (scoped_pause b.wait) fun _ => .bind (Scoped.onSession _) fun _ => ?_
  cases b.failure with
  | some f => exact .throw f
  | none => exact .pure _

/-- A bound on its time does not change that. -/
theorem scoped_runWithin (limit : Nat) (b : Rehearsal.Behaviour) (input : Json) :
    Scoped o (b.runWithin limit input) := by
  unfold Behaviour.runWithin
  split
  · exact .bind (scoped_pause limit) fun _ => .pure none
  · exact .bind (scoped_run b input) fun _ => .pure _

/-- **Custom code that does what is scripted is scoped,** by any owner: it has no use for
variables. -/
theorem Registered.code_scoped (r : Registered) : r.code.Scoped o where
  steps := by
    intro name run h s args
    obtain ⟨b, -, rfl⟩ := Option.map_eq_some_iff.mp h
    exact scoped_run b _
  pageObjects := by
    intro cls make h page method s args
    obtain ⟨methods, -, rfl⟩ := Option.map_eq_some_iff.mp h
    dsimp only
    split
    · exact scoped_run _ _
    · exact .throw _
  plugins := by
    intro name run h limit s
    obtain ⟨b, -, rfl⟩ := Option.map_eq_some_iff.mp h
    exact scoped_runWithin limit b _

end Rehearsal

/-! ## §3. Steps. -/

namespace Step

variable (o : Owner)

/-- Options are filled one after another. -/
theorem through_fillValues (members : List (String × Json)) : Through o (fillValues o members) := by
  induction members with
  | nil => exact .give []
  | cons member rest ih =>
    exact .bind (Store.through_injectJson o member.2) fun v => .map ih fun ms => (member.1, v) :: ms

/-- The locator that a filled document describes. -/
def locatorOf (v : Json) : Except Failure (Option Locator) :=
  match Decode.ofJson Locator.decode v with
  | .ok l => .ok (some l)
  | .error e => .error (.form e.message)

/-- A locator is filled by way of its document, and read back. -/
theorem fillLocator_some (l : Locator) (s : Store) :
    fillLocator o (some l) s =
      (locatorOf (Store.injectJson o l.toJson s).1, (Store.injectJson o l.toJson s).2) := by
  unfold fillLocator locatorOf
  cases hdecoded : Decode.ofJson Locator.decode (Store.injectJson o l.toJson s).1 with
  | ok found =>
    dsimp only
    rw [hdecoded]
  | error e =>
    dsimp only
    rw [hdecoded]

/-- A locator is filled through the scope, and a missing one leaves the variables alone. -/
theorem through_fillLocator (l : Option Locator) : Through o (fillLocator o l) := by
  cases l with
  | none => exact .give _
  | some l =>
    exact .of_eq (.map (Store.through_injectJson o l.toJson) locatorOf) (fillLocator_some o l)

/-- The input of a call is filled as a document. -/
theorem through_fillCall (c : Option CustomCall) : Through o (fillCall o c) := by
  cases c with
  | none => exact .give none
  | some c =>
    exact .map (Store.through_injectItems o c.args) fun args => some { c with args := args }

theorem through_fillValue (v : Option Json) : Through o (fillValue o v) := by
  cases v with
  | none => exact .give none
  | some v => exact .map (Store.through_injectJson o v) some

/-- The last part of filling a step, with what its parts before became. -/
def fillCallLast (step : Step) (value : Option Json) (options : List (String × Json))
    (found : Except Failure (Option Locator)) (s : Store) : Except Failure Step × Store :=
  match found with
  | .error f => (.error f, s)
  | .ok locator =>
    let (call, s) := fillCall o step.customFunction s
    (.ok { step with value := value, options := options, locator := locator,
                     customFunction := call }, s)

/-- The call is filled after all else, also if the locator could not be read back. -/
theorem through_fillCallLast (step : Step) (value : Option Json) (options : List (String × Json))
    (found : Except Failure (Option Locator)) :
    Through o (fillCallLast o step value options found) := by
  cases found with
  | error f => exact .give _
  | ok locator =>
    exact .map (through_fillCall o step.customFunction) fun call =>
      Except.ok { step with value := value, options := options, locator := locator,
                            customFunction := call }

/-- **The order in which a step is filled:** its value, its options, its locator and its call. -/
theorem fill_eq (step : Step) (s : Store) :
    step.fill o s =
      let value := fillValue o step.value s
      let options := fillValues o step.options value.2
      let locator := fillLocator o step.locator options.2
      fillCallLast o step value.1 options.1 locator.1 locator.2 := by
  unfold fill
  dsimp only
  obtain ⟨f | locator, m⟩ := fillLocator o step.locator
    (fillValues o step.options (fillValue o step.value s).2).2 <;> rfl

/-- A step is filled through the scope. -/
theorem through_fill (step : Step) : Through o (step.fill o) := by
  -- from the last part to the first: each is filled in the store that those before it left
  have hrest : ∀ value options, Through o fun s => fillCallLast o step value options
      (fillLocator o step.locator s).1 (fillLocator o step.locator s).2 := fun value options =>
    .bind (through_fillLocator o step.locator) (through_fillCallLast o step value options)
  have hall := Through.bind (through_fillValue o step.value) fun value =>
    Through.bind (through_fillValues o step.options) (hrest value)
  exact hall.of_eq (fill_eq o step)

end Step

/-- What is written of an output goes to slots of the owner or to global ones. -/
theorem through_storeParts (o : Owner) (marker : Option String) (output : Json) (scope : Scope)
    (directives : List (String × String)) :
    Through o fun s => ((), storeParts o marker output scope directives s) := by
  induction directives with
  | nil => exact .give ()
  | cons directive rest ih =>
    unfold storeParts
    cases extract? marker directive.2 output with
    | some v => exact .bind (.set scope directive.1 (valueText v)) fun _ => ih
    | none => exact ih

/-- Outputs are stored through the scope, for all and for the case alone. -/
theorem through_storeOutput (o : Owner) (k : Keyword) (step : Step) (output : Json) :
    Through o fun s => ((), storeOutput o k step output s) :=
  .bind (through_storeParts o _ output .global step.store.entries) fun _ =>
    through_storeParts o _ output .perCase step.localStore.entries

/-- **What a step does is scoped,** if custom code is: all else is done with the session. -/
theorem Action.scoped_perform {o : Owner} {setup : UiSetup} (hc : setup.custom.Scoped o) (s : Step)
    (a : Action) : Scoped o (a.perform setup s) := by
  cases a with
  | customStep call => exact .bind (hc.callStep s call) fun _ => .pure _
  | customCode => exact .bind (hc.runPlugin setup.codeLimit s) fun _ => .pure _
  | _ => exact Scoped.onSession _

namespace Ui

variable {o : Owner} {setup : UiSetup}

/-- **An attempt at a step is scoped:** it is filled, performed, and its output is written. -/
theorem scoped_attempt (hc : setup.custom.Scoped o) (base : String) (step : Step) :
    Scoped o (attempt setup base o step) := by
  refine .bind (Scoped.onStore (PreProcess.scoped_runAll _ o step.preProcess)) fun _ => ?_
  refine .bind (.ofExcept _) fun k => ?_
  refine .bind (Scoped.onStore (Task.Scoped.update (step.through_fill o))) fun filled => ?_
  refine .bind (.ofExcept filled) fun filled => .bind (.ofExcept _) fun action => ?_
  refine .bind (action.scoped_perform hc filled) fun output => ?_
  cases output with
  | some output =>
    exact Scoped.onStore (Task.Scoped.change (through_storeOutput o k filled output))
  | none => exact .pure ()

/-- Any number of attempts is scoped, with pauses between them. -/
theorem scoped_attempts (setup : UiSetup) {once : Task Stage Unit} (h : Scoped o once) :
    ∀ left n, Scoped o (attempts setup once n left)
  | 0, _ => h
  | left + 1, n => by
    refine .bind (.result h) fun r => ?_
    cases r with
    | ok => exact .pure ()
    | error f => exact .bind (.ask _) fun _ => scoped_attempts setup h left (n + 1)

/-- A picture of a failure has nothing to do with variables. -/
theorem scoped_failurePicture (setup : UiSetup) (name : String) :
    Scoped o (failurePicture setup name) := by
  apply Scoped.look
  · intro g
    by_cases hopen : g.session.isOpen
    · rw [if_pos hopen]
      refine .bind (.result (Scoped.onSession _)) fun q => ?_
      cases q with
      | ok path => exact .pure _
      | error _ => exact .pure _
    · rw [if_neg hopen]
      exact .pure none
  · intro g h hsession
    rw [hsession]

/-- **A step is scoped,** from the filling of its operands to its entry. -/
theorem scoped_runStep {suite : Suite} {c : TestCase}
    (hc : setup.custom.Scoped ⟨suite.id, c.id⟩) (index : Nat) (step : Step) :
    Scoped ⟨suite.id, c.id⟩ (runStep setup suite c index step) := by
  refine .bind (.ask _) fun started => ?_
  refine .bind (.result (scoped_attempts setup (scoped_attempt hc _ step) _ 0)) fun r => ?_
  refine .bind (.ask _) fun finished => ?_
  cases r with
  | ok => exact .pure _
  | error f => exact .bind (scoped_failurePicture setup _) fun _ => .pure _

/-- Steps in a row are scoped, whether one of them failed or not. -/
theorem scoped_runSteps {suite : Suite} {c : TestCase}
    (hc : setup.custom.Scoped ⟨suite.id, c.id⟩) (steps : List Step) :
    ∀ anyFailed index, Scoped ⟨suite.id, c.id⟩ (runSteps setup suite c anyFailed index steps) := by
  induction steps with
  | nil => exact fun _ _ => .pure []
  | cons step rest ih =>
    intro anyFailed index
    have hentry : Scoped ⟨suite.id, c.id⟩ (stepEntry setup suite c anyFailed index step) := by
      unfold stepEntry
      split
      · exact .pure _
      · split
        · exact .pure _
        · exact scoped_runStep hc index step
    exact .bind hentry fun _ => .bind (ih _ _) fun _ => .pure _

/-- **A test case on its stage is scoped,** whatever its steps say. -/
theorem scoped_caseOnStage {suite : Suite} {c : TestCase}
    (hc : setup.custom.Scoped ⟨suite.id, c.id⟩) :
    Scoped ⟨suite.id, c.id⟩ (caseOnStage setup suite c) :=
  .bind (scoped_runSteps hc c.steps false 0) fun _ =>
    .bind (.result (Scoped.onSession _)) fun _ => .pure _

/-! ## §4. Test cases. -/

variable {suite : Suite} {c : TestCase} {p : Owner}

/-- **A test case leaves the local variables of others as they are.** -/
theorem untouched_runCase (h : Scoped o (caseOnStage setup suite c)) (hp : p ≠ o) :
    Keeps (SameLocals p) (runCase setup suite c) := by
  intro s log r s' hruns
  obtain ⟨g, hg, rfl⟩ := Task.runs_focus_iff.mp hruns
  exact h.untouched hp _ _ _ _ hg

/-- **A test case does not see what others have.** -/
theorem blind_runCase (h : Scoped o (caseOnStage setup suite c)) (hp : o ≠ p) :
    InStep (SameBut p) (runCase setup suite c) := by
  intro s u log r s' hsame hruns
  obtain ⟨g, hg, rfl⟩ := Task.runs_focus_iff.mp hruns
  have hstage : Stage.SameBut p ⟨.closed, s⟩ ⟨.closed, u⟩ := ⟨rfl, hsame⟩
  obtain ⟨g', hg', hsame'⟩ := h.blind hp _ _ _ _ _ hstage hg
  exact ⟨_, Task.runs_focus_iff.mpr ⟨g', hg', rfl⟩, hsame'.store⟩

end Ui

end SuiteRunner

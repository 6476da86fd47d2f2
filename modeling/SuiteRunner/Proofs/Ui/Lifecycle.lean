import SuiteRunner.Proofs.Browser.Lifecycle
import SuiteRunner.Proofs.PreProcess.Apart
import SuiteRunner.Proofs.Ui.Actions
import SuiteRunner.Proofs.Ui.Skipping
import SuiteRunner.Rehearsal.Custom

/-!
  SuiteRunner.Proofs.Ui.Lifecycle
  ────────────────────────────────
  **A TEST CASE LEAVES NO BROWSER OPEN.**

  Steps start browsers when they first need one, may close them in the middle and start others, may
  fail anywhere and are tried again, and a picture is taken of each failure.  All of it reaches
  browsers through the session of the case; custom code is trusted to do so too, since it is given
  nothing else to reach them by.

    • `Stage.Proper` — the grammar of such tasks, with the session and the variables at hand,
    • `Stage.Proper.traces` — they walk from the phase of the session to that of the next one,
    • `proper_attempt`, `proper_runSteps` — one attempt at a step, and all steps, are proper,
    • `runCase_lifecycle` — so what a test case asks of browsers has the lifecycle that is wanted.
-/

namespace SuiteRunner

open Session

/-! ## §1. Proper tasks. -/

namespace Stage

variable {α β : Type} {g g' : Stage} {log : Log}

/-- **The grammar of tasks that reach browsers through the session of a stage alone.** -/
inductive Proper : {α : Type} → Task Stage α → Prop where
  | apart {α : Type} {t : Task Stage α}
      (h : ∀ {g log r g'}, t.Runs g log r g' →
        (∀ e ∈ log, e.1.toBrowsers = false) ∧ g'.session.browser = g.session.browser) : Proper t
  | bind {α β : Type} {t : Task Stage α} {f : α → Task Stage β} (ht : Proper t)
      (hf : ∀ a, Proper (f a)) : Proper (t >>= f)
  | result {α : Type} {t : Task Stage α} (ht : Proper t) : Proper t.result
  | mapFailure {α : Type} {t : Task Stage α} (ht : Proper t) (f : Failure → Failure) :
      Proper (t.mapFailure f)
  | onSession {α : Type} {t : Task Session α} (ht : Guarded t) : Proper (onSession t)

/-- **Proper tasks walk from the phase of the session to that of the next one.** -/
theorem Proper.traces {t : Task Stage α} (h : Proper t) :
    ∀ {g log r g'}, t.Runs g log r g' → Phase.Path g.session.phase log g'.session.phase := by
  -- on the grammar: only a task on the session has anything to ask of browsers
  induction h with
  | apart h =>
    intro g log r g' hruns
    obtain ⟨hlog, hbrowser⟩ := h hruns
    rw [show g'.session.phase = g.session.phase by unfold phase; rw [hbrowser]]
    exact Phase.path_of_apart hlog _
  | bind _ _ iht ihf =>
    intro g log r g' hruns
    obtain ⟨e, -, hfails⟩ | ⟨first, last, a, m, rfl, hfirst, hlast⟩ :=
      (Task.runs_bind_iff _ _).mp hruns
    · exact iht hfails
    · exact (iht hfirst).append (ihf a hlast)
  | result _ ih =>
    intro g log r g' hruns
    obtain ⟨q, -, hq⟩ := Task.runs_result_iff.mp hruns
    exact ih hq
  | mapFailure _ f ih =>
    intro g log r g' hruns
    obtain ⟨q, hq, -⟩ := Task.runs_mapFailure_iff.mp hruns
    exact ih hq
  | onSession ht =>
    intro g log r g' hruns
    obtain ⟨m, hm, rfl⟩ := Task.runs_focus_iff.mp hruns
    exact ht.traces hm

namespace Proper

/-- A result that stands fixed asks nothing of anybody. -/
theorem ofExcept (x : Except Failure α) : Proper (Task.ofExcept x) := by
  apply Proper.apart
  intro g log r g' hruns
  obtain ⟨rfl, -, rfl⟩ := Task.runs_ofExcept_iff.mp hruns
  exact ⟨fun e he => (by cases he), rfl⟩

theorem pure (a : α) : Proper (Pure.pure a : Task Stage α) := .ofExcept (.ok a)

theorem throw (e : Failure) : Proper (MonadExcept.throw e : Task Stage α) := .ofExcept (.error e)

/-- A question to anything but a browser is proper. -/
theorem ask {q : Request} (hq : q.toBrowsers = false) : Proper (Task.ask q) := by
  apply Proper.apart
  intro g log r g' hruns
  obtain ⟨a, rfl, -, rfl⟩ := Task.runs_ask_iff.mp hruns
  exact ⟨fun e he => List.mem_singleton.mp he ▸ hq, rfl⟩

/-- To look at the stage asks nothing. -/
theorem look : Proper (get : Task Stage Stage) := by
  apply Proper.apart
  intro g log r g' hruns
  obtain ⟨rfl, -, rfl⟩ := Task.runs_get_iff.mp hruns
  exact ⟨fun e he => (by cases he), rfl⟩

/-- What is done with the variables alone. -/
theorem onStore {t : Task Store α} (ht : t.Apart) : Proper (Stage.onStore t) := by
  apply Proper.apart
  intro g log r g' hruns
  obtain ⟨m, hm, rfl⟩ := Task.runs_focus_iff.mp hruns
  exact ⟨ht _ _ _ _ hm, rfl⟩

end Proper

end Stage

open Stage (Proper)

/-- **Custom code that reaches browsers through the session alone.** -/
structure CustomCode.Proper (c : CustomCode) : Prop where
  steps : ∀ {name run}, c.steps name = some run → ∀ s args, Stage.Proper (run s args)
  pageObjects : ∀ {cls make}, c.pageObjects cls = some make →
    ∀ page method s args, Stage.Proper (make page method s args)
  plugins : ∀ {name run}, c.plugins name = some run → ∀ limit s, Stage.Proper (run limit s)

namespace CustomCode

variable {c : CustomCode}

/-- A call of custom code is proper if custom code is. -/
theorem Proper.callStep (hc : c.Proper) (s : Step) (call : CustomCall) :
    Stage.Proper (c.callStep s call) := by
  unfold CustomCode.callStep
  cases hrun : c.steps call.function with
  | some run => exact hc.steps hrun s call.args
  | none =>
    cases Text.splitOnce? '.' call.function with
    | none => exact .throw _
    | some parts =>
      obtain ⟨cls, method⟩ := parts
      dsimp only
      cases hmake : c.pageObjects cls with
      | none => exact .throw _
      | some make =>
        exact .bind (.onSession .page) fun page => hc.pageObjects hmake page method s call.args

theorem Proper.pluginOf (hc : c.Proper) {s : Step} {run : Nat → Step → Task Stage (Option Json)}
    (h : c.pluginOf? s = some run) (limit : Nat) : Stage.Proper (run limit s) := by
  unfold pluginOf? at h
  cases hid : c.plugins s.id with
  | some found =>
    rw [hid] at h
    cases h
    exact hc.plugins hid limit s
  | none =>
    rw [hid] at h
    obtain ⟨name, -, hname⟩ := Option.bind_eq_some_iff.mp h
    exact hc.plugins hname limit s

/-- A step that no plugin takes fails, and has asked nothing by then. -/
theorem Proper.runPlugin (hc : c.Proper) (limit : Nat) (s : Step) :
    Stage.Proper (c.runPlugin limit s) := by
  unfold CustomCode.runPlugin
  cases hrun : c.pluginOf? s with
  | none => exact .throw _
  | some run =>
    apply Stage.Proper.bind (.mapFailure (hc.pluginOf hrun limit) _)
    intro v
    cases v with
    | some v => exact .pure v
    | none => exact .throw _

end CustomCode

/-! ## §2. Scripted custom code. -/

namespace Rehearsal

open Behaviour

/-- Calls in a row are orderly, each of them on the page that is active then. -/
theorem orderly_callAll (calls : List ElementCall) : Orderly (callAll calls) := by
  induction calls with
  | nil => exact .pure ()
  | cons call rest ih => exact .bind (.callElement _ _ _) fun _ => ih

theorem proper_pause (ms : Nat) : Proper (pause ms) := by
  unfold pause
  split
  · exact .pure ()
  · exact .ask rfl

/-- **A scripted behaviour is proper:** it reaches the browser by calls on elements alone. -/
theorem proper_run (b : Rehearsal.Behaviour) (input : Json) : Proper (b.run input) := by
  apply Proper.bind (proper_pause b.wait)
  intro _
  apply Proper.bind (.onSession (orderly_callAll b.calls).guarded)
  intro _
  cases b.failure with
  | some f => exact .throw f
  | none => exact .pure _

/-- A scripted behaviour is proper within a limit of time, too. -/
theorem proper_runWithin (limit : Nat) (b : Rehearsal.Behaviour) (input : Json) :
    Proper (b.runWithin limit input) := by
  unfold runWithin
  split
  · exact .bind (proper_pause limit) fun _ => .pure none
  · exact .bind (proper_run b input) fun _ => .pure _

/-- **Custom code that does what is scripted is proper,** whatever the script. -/
theorem Registered.code_proper (r : Registered) : r.code.Proper where
  steps := by
    intro name run h s args
    obtain ⟨b, -, rfl⟩ := Option.map_eq_some_iff.mp h
    exact proper_run b _
  pageObjects := by
    intro cls make h page method s args
    obtain ⟨methods, -, rfl⟩ := Option.map_eq_some_iff.mp h
    dsimp only
    split
    · exact proper_run _ _
    · exact .throw _
  plugins := by
    intro name run h limit s
    obtain ⟨b, -, rfl⟩ := Option.map_eq_some_iff.mp h
    exact proper_runWithin limit b _

end Rehearsal

/-! ## §3. Actions. -/

namespace Action

variable {setup : UiSetup}

/-- **A page is closed at a position** only after one was found there. -/
theorem guarded_closePageAt (position : Option Nat) : Guarded (closePageAt position) := by
  apply Guarded.bind .look
  intro s
  cases pageToClose s position with
  | none => exact .ofExcept (.error .noActivePage)
  | some p => exact .bind (.call _) fun _ => .move fun _ => rfl

/-- Every action goes from phase to phase, closing a page included. -/
theorem guarded_performOnSession (setup : UiSetup) (a : Action) :
    Guarded (a.performOnSession setup) := by
  by_cases hclose : ∃ position, a = .closePage position
  · obtain ⟨position, rfl⟩ := hclose
    exact .bind (guarded_closePageAt position) fun _ => .ofExcept (.ok none)
  · have hother : ∀ position, a ≠ .closePage position := fun position h => hclose ⟨position, h⟩
    exact (orderly_performOnSession setup a hother).guarded

/-- **Doing what a step says is proper,** if custom code is. -/
theorem proper_perform (hcustom : setup.custom.Proper) (s : Step) (a : Action) :
    Proper (a.perform setup s) := by
  cases a
  case customStep call => exact .bind (hcustom.callStep s call) fun _ => .pure _
  case customCode => exact .bind (hcustom.runPlugin setup.codeLimit s) fun _ => .pure _
  all_goals exact .onSession (guarded_performOnSession setup _)

end Action

/-! ## §4. Steps and cases. -/

namespace Ui

variable {setup : UiSetup} {suite : Suite} {c : TestCase}

/-- **One attempt at a step is proper.** -/
theorem proper_attempt (hcustom : setup.custom.Proper) (base : String) (o : Owner) (step : Step) :
    Proper (attempt setup base o step) := by
  apply Proper.bind (.onStore (PreProcess.apart_runAll setup.preProcess o step.preProcess))
  intro _
  apply Proper.bind (.ofExcept _)
  intro k
  apply Proper.bind (.onStore (.update _))
  intro filled
  apply Proper.bind (.ofExcept filled)
  intro filled
  apply Proper.bind (.ofExcept _)
  intro action
  apply Proper.bind (Action.proper_perform hcustom filled action)
  intro output
  cases output with
  | some output => exact .onStore (.change _)
  | none => exact .pure ()

/-- Attempts in a row are proper, with pauses between them. -/
theorem proper_attempts {once : Task Stage Unit} (honce : Proper once) (left : Nat) :
    ∀ n, Proper (attempts setup once n left) := by
  induction left with
  | zero => exact fun _ => honce
  | succ left ih =>
    intro n
    apply Proper.bind (.result honce)
    intro q
    cases q with
    | ok _ => exact .pure ()
    | error _ => exact .bind (.ask rfl) fun _ => ih (n + 1)

/-- A picture is taken if a browser is open; if that fails there is none. -/
theorem proper_failurePicture (name : String) : Proper (failurePicture setup name) := by
  apply Proper.bind .look
  intro g
  by_cases hopen : g.session.isOpen
  · rw [if_pos hopen]
    apply Proper.bind (.result (.onSession (Orderly.screenshot _ name).guarded))
    intro q
    cases q with
    | ok path => exact .pure _
    | error _ => exact .pure _
  · rw [if_neg hopen]
    exact .pure none

/-- **A step is proper,** with all its attempts, its entry and its picture. -/
theorem proper_runStep (hcustom : setup.custom.Proper) (index : Nat) (step : Step) :
    Proper (runStep setup suite c index step) := by
  have hattempts : Proper (attempts setup (attempt setup suite.baseUrl ⟨suite.id, c.id⟩ step) 0
      (setup.retry.attempts - 1)) :=
    proper_attempts (proper_attempt hcustom suite.baseUrl ⟨suite.id, c.id⟩ step) _ 0
  apply Proper.bind (.ask rfl)
  intro started
  apply Proper.bind (.result hattempts)
  intro q
  apply Proper.bind (.ask rfl)
  intro finished
  cases q with
  | ok _ => exact .pure _
  | error f => exact .bind (proper_failurePicture _) fun _ => .pure _

/-- A step that is skipped asks nothing. -/
theorem proper_stepEntry (hcustom : setup.custom.Proper) (anyFailed : Bool) (index : Nat)
    (step : Step) : Proper (stepEntry setup suite c anyFailed index step) := by
  unfold stepEntry
  split
  · exact .pure _
  · split
    · exact .pure _
    · exact proper_runStep hcustom index step

/-- **The steps of a case are proper,** whichever of them fail. -/
theorem proper_runSteps (hcustom : setup.custom.Proper) (steps : List Step) :
    ∀ anyFailed index, Proper (runSteps setup suite c anyFailed index steps) := by
  induction steps with
  | nil => exact fun _ _ => .pure []
  | cons step rest ih =>
    intro anyFailed index
    apply Proper.bind (proper_stepEntry hcustom anyFailed index step)
    intro e
    exact .bind (ih _ _) fun _ => .pure _

/-- At the end of a case the session is closed, and its questions lead from no browser to none. -/
theorem path_of_caseOnStage (hcustom : setup.custom.Proper) {s : Store} {log : Log}
    {r : Except Failure (List Entry)} {g : Stage}
    (h : (caseOnStage setup suite c).Runs ⟨.closed, s⟩ log r g) :
    Phase.Path .idle log .idle := by
  obtain ⟨first, last, es, m, rfl, hsteps, hrest⟩ :=
    ((neverFails_runSteps c.steps).runs_bind_iff _).mp h
  obtain ⟨closing, _, q, m', rfl, hend, hreturn⟩ := Task.runs_result_bind_iff.mp hrest
  obtain ⟨rfl, -, rfl⟩ := Task.runs_pure_iff.mp hreturn
  rw [List.append_nil]
  have hbefore := (proper_runSteps hcustom c.steps false 0).traces hsteps
  have hclosing := (Proper.onSession .close).traces hend
  obtain ⟨session, hclose, rfl⟩ := Task.runs_focus_iff.mp hend
  obtain ⟨-, rfl⟩ := closes_of_runs hclose
  exact hbefore.append hclosing

/-- **WHAT A TEST CASE ASKS OF BROWSERS.**  Whatever the factory, the browsers and all the rest of
the outside do, at most one started browser is open at a time, calls go to the open one, and when the
case is over each browser that was started has been closed, once. -/
theorem runCase_lifecycle (setup : UiSetup) (hcustom : setup.custom.Proper) (suite : Suite)
    (c : TestCase) (b : Behaviour outside) (s : Store) (past : Log) :
    ∃ es s' log, Task.play b (runCase setup suite c) s past = ((.ok es, s'), past ++ log) ∧
      Lifecycle log := by
  obtain ⟨log, r, s', hplay, hruns⟩ := Task.exists_play b (runCase setup suite c) s past
  obtain ⟨g, hstage, rfl⟩ := Task.runs_focus_iff.mp hruns
  have hlifecycle := lifecycle_of_path (path_of_caseOnStage hcustom hstage)
  obtain ⟨_, _, es, _, rfl, -, hrest⟩ := ((neverFails_runSteps c.steps).runs_bind_iff _).mp hstage
  obtain ⟨_, _, _, _, -, -, hreturn⟩ := Task.runs_result_bind_iff.mp hrest
  obtain ⟨-, rfl, -⟩ := Task.runs_pure_iff.mp hreturn
  exact ⟨es, _, _, hplay, hlifecycle⟩

/-- Custom code with one registered step, which clicks and then fails. -/
def clicking : Rehearsal.Registered :=
  { steps := [("greet", { calls := [⟨"#hello", "click", []⟩], failure := some (.driver "lost") })] }

/-- A case that calls it, closes the browser and opens another. -/
def reopening : TestCase :=
  { id := "case", steps := [
      { id := "one", keyword := "customStep", customFunction := some { function := "greet" } },
      { id := "two", keyword := "closeBrowser" },
      { id := "three", keyword := "openBrowser" }] }

/-- An outside where each browser starts and objects to being closed. -/
def objecting : Behaviour outside := fun past q =>
  match q with
  | .createBrowser => .ok past.length
  | .launchBrowser _ => .ok "main"
  | .callBrowser _ _ => .ok .null
  | .closeBrowser _ => .error (.driver "still busy")
  | .firstRow _ _ _ => .ok none
  | .exchange _ => .error "refused"
  | .files _ => default
  | .readText _ => .error "missing"
  | .makeDirectories _ => .ok ()
  | .writeText _ _ => .ok ()
  | .openRegistry _ => .error (.driver "missing")
  | .saveRegistry _ _ => ()
  | .variable _ => none
  | .clock => 0
  | .moment => 0
  | .draw _ => 0
  | .madeUp _ => ""
  | .nonce => ⟨List.replicate 12 0, rfl⟩
  | .pause _ => ()
  | .print _ => ()

/-- Two browsers are started, and both closings are objected to. -/
theorem runCase_lifecycle_reopening :
    clicking.code.Proper ∧
      ∃ es s' log, Task.play objecting (runCase { custom := clicking.code } {} reopening)
          default [] = ((.ok es, s'), [] ++ log) ∧
        Lifecycle log ∧ Phase.madeBrowsers log = [1, 11] := by
  have hproper := clicking.code_proper
  obtain ⟨es, s', log, hplay, hlifecycle⟩ :=
    runCase_lifecycle { custom := clicking.code } hproper {} reopening objecting default []
  refine ⟨hproper, es, s', log, hplay, hlifecycle, ?_⟩
  rw [← show _ = log from congrArg Prod.snd hplay]
  rfl

end Ui

end SuiteRunner

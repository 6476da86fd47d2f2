import SuiteRunner.Proofs.Run.Parts
import SuiteRunner.Ui.Run

/-!
  SuiteRunner.Proofs.Ui.Skipping
  ────────────────────────────────
  **WHICH STEPS OF A CASE ARE SKIPPED, AND WHAT THE OTHERS COME TO.**

  The steps of a case run in order, and each leaves one entry.  `StepAccount` says all that there
  is to say about one step, given the entries before it:

    • it is skipped exactly if it is not enabled, or if it is marked for it and some earlier step
      failed, however long ago,
    • a skipped step asks nothing of the outside and leaves the session and the variables alone,
    • any other step is run, and it passes or fails.

  `stepEntry_account` proves it for one step, `runSteps_accounts` carries it through the steps, and
  `runCase_accounts` is the statement for test cases under every behaviour of the outside.
-/

namespace SuiteRunner

namespace Ui

variable {setup : UiSetup} {suite : Suite} {c : TestCase}

/-! ## §1. A step that is run. -/

/-- Taking a picture of a failure cannot fail. -/
theorem neverFails_failurePicture (name : String) : Task.NeverFails (failurePicture setup name) := by
  intro g log r g' h
  have hlook := Task.runs_get_bind_iff.mp h
  by_cases hopen : g.session.isOpen
  · rw [if_pos hopen] at hlook
    obtain ⟨_, _, q, _, -, -, hrest⟩ := Task.runs_result_bind_iff.mp hlook
    cases q with
    | ok path => exact ⟨some path, (Task.runs_pure_iff.mp hrest).2.1⟩
    | error f => exact ⟨none, (Task.runs_pure_iff.mp hrest).2.1⟩
  · rw [if_neg hopen] at hlook
    exact ⟨none, (Task.runs_pure_iff.mp hlook).2.1⟩

/-- **A step that is run passes or fails,** whatever the attempts at it do. -/
theorem runStep_ok {index : Nat} {step : Step} {g g' : Stage} {log : Log}
    {r : Except Failure Entry} (h : (runStep setup suite c index step).Runs g log r g') :
    ∃ e, r = .ok e ∧ e.SameUnit (newEntry suite c index step) ∧
      (e.status = .pass ∨ e.status = .fail) := by
  unfold runStep at h
  obtain ⟨started, _, -, h⟩ := Task.runs_ask_bind_iff.mp h
  obtain ⟨_, _, q, _, -, -, h⟩ := Task.runs_result_bind_iff.mp h
  obtain ⟨finished, _, -, h⟩ := Task.runs_ask_bind_iff.mp h
  cases q with
  | ok u =>
    have hr := (Task.runs_pure_iff.mp h).2.1
    exact ⟨_, hr, ⟨rfl, rfl, rfl, rfl, rfl, rfl, rfl⟩, .inl rfl⟩
  | error f =>
    obtain ⟨_, _, picture, _, -, -, h⟩ := ((neverFails_failurePicture _).runs_bind_iff _).mp h
    have hr := (Task.runs_pure_iff.mp h).2.1
    exact ⟨_, hr, ⟨rfl, rfl, rfl, rfl, rfl, rfl, rfl⟩, .inr rfl⟩

/-! ## §2. Steps that are due for skipping. -/

/-- Whether one of the entries is that of a failure. -/
def anyFailed (es : List Entry) : Bool := es.any fun e => e.status == .fail

/-- A failure among the entries before is what skips a step. -/
theorem anyFailed_iff (es : List Entry) : anyFailed es = true ↔ ∃ e ∈ es, e.status = .fail := by
  unfold anyFailed
  rw [List.any_eq_true]
  simp only [beq_iff_eq]

theorem anyFailed_append_singleton (es : List Entry) (e : Entry) :
    anyFailed (es ++ [e]) = (anyFailed es || e.status == .fail) := by
  unfold anyFailed
  rw [List.any_append, List.any_cons, List.any_nil, Bool.or_false]

/-- **A step that is to be skipped** after the entries of earlier steps. -/
def Due (earlier : List Entry) (step : Step) : Prop :=
  step.enabled = false ∨ step.skipOnFailure = true ∧ ∃ e ∈ earlier, e.status = .fail

/-- A step that is due is skipped for one of two reasons, and nothing else about it is read. -/
theorem stepEntry_of_due (suite : Suite) (c : TestCase) (index : Nat) {earlier : List Entry}
    {step : Step} (hdue : Due earlier step) :
    ∃ reason, ∀ (setup : UiSetup) (functions : List PreProcessStep),
      stepEntry setup suite c (anyFailed earlier) index { step with preProcess := functions }
        = pure (skip (newEntry suite c index step) reason) := by
  by_cases henabled : step.enabled = true
  · obtain hoff | ⟨hmarked, hfailed⟩ := hdue
    · rw [hoff] at henabled
      cases henabled
    · refine ⟨"skipped after an earlier failure", ?_⟩
      intro setup functions
      unfold stepEntry
      rw [(anyFailed_iff earlier).mpr hfailed]
      show (if !step.enabled then _ else if true && step.skipOnFailure then _ else _) = _
      rw [henabled, hmarked]
      rfl
  · refine ⟨"step disabled", ?_⟩
    intro setup functions
    show (if !step.enabled then _ else _) = _
    rw [Bool.eq_false_iff.mpr henabled]
    rfl

/-- A step that is not due is run. -/
theorem stepEntry_of_not_due {earlier : List Entry} {step : Step} (index : Nat)
    (hdue : ¬Due earlier step) :
    stepEntry setup suite c (anyFailed earlier) index step = runStep setup suite c index step := by
  have henabled : step.enabled = true := by
    cases hoff : step.enabled with
    | true => rfl
    | false => exact absurd (.inl hoff) hdue
  have hgo : ¬(anyFailed earlier && step.skipOnFailure) = true := by
    rw [Bool.and_eq_true, anyFailed_iff]
    rintro ⟨hfailed, hmarked⟩
    exact hdue (.inr ⟨hmarked, hfailed⟩)
  unfold stepEntry
  rw [henabled, if_neg hgo]
  rfl

/-! ## §3. One step after others. -/

/-- **The account of one step:** `earlier` are the entries of the steps before it, and `p` is its
part of the run. -/
structure StepAccount (setup : UiSetup) (suite : Suite) (c : TestCase) (earlier : List Entry)
    (index : Nat) (step : Step) (p : Part Stage) : Prop where
  /-- The entry names the step and its place. -/
  unit : p.entry.SameUnit (newEntry suite c index step)
  skipped_iff : p.entry.status = .skipped ↔ Due earlier step
  /-- A skipped step asks nothing and changes nothing. -/
  idle : p.entry.status = .skipped → p.log = [] ∧ p.after = p.before
  /-- Its entry is the same whatever functions are to run before it, and in every setup. -/
  unread : p.entry.status = .skipped → ∀ (other : UiSetup) (functions : List PreProcessStep),
    stepEntry other suite c (anyFailed earlier) index { step with preProcess := functions }
      = pure p.entry
  /-- Any other step is run. -/
  ran : p.entry.status ≠ .skipped →
    (p.entry.status = .pass ∨ p.entry.status = .fail) ∧
      (runStep setup suite c index step).Runs p.before p.log (.ok p.entry) p.after

/-- **One step always leaves an entry,** and the account of it holds. -/
theorem stepEntry_account {earlier : List Entry} {index : Nat} {step : Step} {g g' : Stage}
    {log : Log} {r : Except Failure Entry}
    (h : (stepEntry setup suite c (anyFailed earlier) index step).Runs g log r g') :
    ∃ e, r = .ok e ∧ StepAccount setup suite c earlier index step ⟨e, log, g, g'⟩ := by
  -- a step that is due is skipped, and nothing is asked for it
  by_cases hdue : Due earlier step
  · obtain ⟨reason, hskip⟩ := stepEntry_of_due suite c index hdue
    have hpure := hskip setup step.preProcess
    obtain ⟨rfl, rfl, rfl⟩ := Task.runs_pure_iff.mp (hpure ▸ h)
    exact ⟨_, rfl,
      { unit := ⟨rfl, rfl, rfl, rfl, rfl, rfl, rfl⟩
        skipped_iff := ⟨fun _ => hdue, fun _ => rfl⟩
        idle := fun _ => ⟨rfl, rfl⟩
        unread := fun _ => hskip
        ran := fun hran => absurd rfl hran }⟩
  · rw [stepEntry_of_not_due index hdue] at h
    obtain ⟨e, rfl, hunit, hstatus⟩ := runStep_ok h
    -- a step that ran passes or fails
    have hran : e.status ≠ .skipped := by
      intro hskipped
      rw [hskipped] at hstatus
      cases hstatus with
      | inl hpass => cases hpass
      | inr hfail => cases hfail
    exact ⟨e, rfl,
      { unit := hunit
        skipped_iff := ⟨fun hskipped => absurd hskipped hran, fun h => absurd h hdue⟩
        idle := fun hskipped => absurd hskipped hran
        unread := fun hskipped => absurd hskipped hran
        ran := fun _ => ⟨hstatus, h⟩ }⟩

/-! ## §4. The steps of a case. -/

theorem neverFails_stepEntry (earlier : List Entry) (index : Nat) (step : Step) :
    Task.NeverFails (stepEntry setup suite c (anyFailed earlier) index step) := by
  intro g log r g' h
  obtain ⟨e, hr, -⟩ := stepEntry_account h
  exact ⟨e, hr⟩

/-- **The steps one after another:** every run of them has a part for each step, and in it the
account of the step after all entries before it. -/
theorem runSteps_accounts (steps : List Step) :
    ∀ (earlier : List Entry) (index : Nat) {g g' : Stage} {log : Log}
      {r : Except Failure (List Entry)},
      (runSteps setup suite c (anyFailed earlier) index steps).Runs g log r g' →
      ∃ parts, Part.Cuts parts g log r g' ∧ parts.length = steps.length ∧
        ∀ i step p, steps[i]? = some step → parts[i]? = some p →
          StepAccount setup suite c (earlier ++ Part.entries (parts.take i)) (index + i) step p := by
  -- on the steps; what carries it is that the flag of the loop is `anyFailed` of the entries so far
  induction steps with
  | nil =>
    intro earlier index g g' log r h
    refine ⟨[], Part.cuts_of_runs_nil h, rfl, ?_⟩
    intro i step p hstep
    rw [List.getElem?_nil] at hstep
    cases hstep
  | cons first rest ih =>
    intro earlier index g g' log r h
    have hrest (e : Entry) : Task.NeverFails
        (runSteps setup suite c (anyFailed earlier || e.status == .fail) (index + 1) rest) := by
      intro g log r g' hruns
      rw [← anyFailed_append_singleton] at hruns
      obtain ⟨parts, hcuts, -⟩ := ih _ _ hruns
      exact ⟨_, hcuts.result_eq⟩
    obtain ⟨log₁, log₂, e, m, es, rfl, rfl, hentry, hmore⟩ :=
      (Task.runs_both_iff (neverFails_stepEntry earlier index first) hrest).mp h
    obtain ⟨_, he, haccount⟩ := stepEntry_account hentry
    cases he
    rw [← anyFailed_append_singleton] at hmore
    obtain ⟨parts, hcuts, hlength, haccounts⟩ := ih (earlier ++ [e]) (index + 1) hmore
    refine ⟨⟨e, log₁, g, m⟩ :: parts, hcuts.cons e, ?_, ?_⟩
    · rw [List.length_cons, List.length_cons, hlength]
    · intro i step p hstep hpart
      cases i with
      | zero =>
        cases hstep
        cases hpart
        rw [List.take_zero, Nat.add_zero]
        show StepAccount setup suite c (earlier ++ []) index first _
        rw [List.append_nil]
        exact haccount
      | succ i =>
        rw [List.getElem?_cons_succ] at hstep hpart
        have hi := haccounts i step p hstep hpart
        rw [List.append_assoc] at hi
        rw [List.take_succ_cons, show index + (i + 1) = index + 1 + i by omega]
        exact hi

/-- **Steps never fail as a whole:** whatever happens in one becomes its entry. -/
theorem neverFails_runSteps (steps : List Step) :
    Task.NeverFails (runSteps setup suite c false 0 steps) := by
  intro g log r g' h
  obtain ⟨parts, hcuts, -⟩ := runSteps_accounts steps [] 0 h
  exact ⟨_, hcuts.result_eq⟩

/-- **WHICH STEPS OF A TEST CASE ARE SKIPPED.**  Whatever the browsers, the databases, the files,
the clock and chance do, a test case leaves one entry for each of its steps, in order, and the
account of every step holds after the entries of all steps before it.  What follows the last step
is the closing of the browser, and the case leaves the variables as its last step left them. -/
theorem runCase_accounts (setup : UiSetup) (suite : Suite) (c : TestCase)
    (b : Behaviour outside) (s : Store) (past : Log) :
    ∃ (parts : List (Part Stage)) (g : Stage) (closing : Log),
      Task.play b (runCase setup suite c) s past
        = ((.ok (Part.entries parts), g.store), past ++ (Part.logs parts ++ closing)) ∧
      Part.Follow ⟨.closed, s⟩ parts g ∧
      (∃ q session, Session.close.Runs g.session closing q session) ∧
      parts.length = c.steps.length ∧
      ∀ i step p, c.steps[i]? = some step → parts[i]? = some p →
        StepAccount setup suite c (Part.entries (parts.take i)) i step p := by
  obtain ⟨log, r, s', hplay, hruns⟩ := Task.exists_play b (runCase setup suite c) s past
  obtain ⟨g', hstage, rfl⟩ := Task.runs_focus_iff.mp hruns
  obtain ⟨_, _, es, g, rfl, hsteps, h⟩ :=
    ((neverFails_runSteps c.steps).runs_bind_iff _).mp hstage
  obtain ⟨parts, ⟨hes, rfl, hfollow⟩, hlength, haccounts⟩ := runSteps_accounts c.steps [] 0 hsteps
  cases hes
  -- the session is closed after the last step, and whatever comes of it is dropped
  obtain ⟨closing, _, q, _, rfl, hend, h⟩ := Task.runs_result_bind_iff.mp h
  obtain ⟨session, hclose, rfl⟩ := Task.runs_focus_iff.mp hend
  obtain ⟨rfl, rfl, rfl⟩ := Task.runs_pure_iff.mp h
  rw [List.append_nil] at hplay
  refine ⟨parts, g, closing, hplay, hfollow, ⟨q, session, hclose⟩, hlength, ?_⟩
  intro i step p hstep hpart
  have hi := haccounts i step p hstep hpart
  rw [List.nil_append, Nat.zero_add] at hi
  exact hi

end Ui

end SuiteRunner

import SuiteRunner.Proofs.Ui.Skipping

/-!
  SuiteRunner.Proofs.Ui.Retries
  ────────────────────────────────
  **HOW OFTEN A STEP IS TRIED, AND WHAT ITS ENTRY SAYS OF IT.**

  A step is tried until an attempt succeeds or none is left.  The attempts at it are those that
  failed and were followed by another one, each with the pause after it, and the last one, which
  nothing follows but the verdict:

    • `runs_attempts` — the attempts of a step, from any number of attempts on,
    • `judged_verdict` — what the entry says of the last attempt,
    • `runStep_eq` — the verdict stands before a picture is taken of the failure,
    • `runStep_retries` — all of it for a step under every behaviour of the outside.
-/

namespace SuiteRunner

namespace Ui

variable {setup : UiSetup} {suite : Suite} {c : TestCase} {index : Nat} {step : Step}

/-! ## §1. Attempts. -/

/-- One attempt: what it asked, how it ended, and the stages before and after it. -/
structure Try where
  log : Log
  result : Except Failure Unit
  before : Stage
  after : Stage

/-- An attempt is one way in which a task can go. -/
def Try.Of (once : Task Stage Unit) (t : Try) : Prop := once.Runs t.before t.log t.result t.after

/-- Attempts follow one another from one stage to another. -/
def Try.Follow : Stage → List Try → Stage → Prop
  | g, [], g' => g' = g
  | g, t :: rest, g' => t.before = g ∧ Try.Follow t.after rest g'

/-- What attempts asked, with the pause that follows each; the first of them has number `n`. -/
def pausedLogs (p : RetryPolicy) (n : Nat) (ts : List Try) : Log :=
  (ts.zipIdx n).flatMap fun (t, i) => t.log ++ [⟨.pause (p.delayAfter i), ()⟩]

/-- The first of the attempts comes with its own pause, and the others are counted on. -/
theorem pausedLogs_cons (p : RetryPolicy) (n : Nat) (t : Try) (ts : List Try) :
    pausedLogs p n (t :: ts)
      = t.log ++ ⟨.pause (p.delayAfter n), ()⟩ :: pausedLogs p (n + 1) ts := by
  unfold pausedLogs
  rw [List.zipIdx_cons, List.flatMap_cons, List.append_assoc]
  rfl

/-- **Attempts at a task:** `earlier` are those that another one followed, and `last` is the one
that none followed. -/
structure Tried (once : Task Stage Unit) (limit : Nat) (g : Stage) (earlier : List Try)
    (last : Try) : Prop where
  each : ∀ t ∈ earlier ++ [last], t.Of once
  follow : Try.Follow g earlier last.before
  failed : ∀ t ∈ earlier, ∃ f, t.result = .error f
  within : earlier.length + 1 ≤ limit
  /-- No attempt follows a success, and none is left out. -/
  stopped : last.result = .ok () ∨ earlier.length + 1 = limit

/-- One attempt is all of them if it succeeds or none is left. -/
theorem tried_once {once : Task Stage Unit} {limit : Nat} {t : Try} (ht : t.Of once)
    (hlimit : 1 ≤ limit) (hstop : t.result = .ok () ∨ 1 = limit) :
    Tried once limit t.before [] t where
  each := by
    intro u hu
    rw [List.nil_append, List.mem_singleton] at hu
    rw [hu]
    exact ht
  follow := rfl
  failed := fun _ h => absurd h List.not_mem_nil
  within := hlimit
  stopped := hstop

/-- **An attempt that failed may stand before others,** if one more is allowed. -/
theorem Tried.cons {once : Task Stage Unit} {limit : Nat} {t last : Try} {earlier : List Try}
    {f : Failure} (ht : t.Of once) (hfailed : t.result = .error f)
    (h : Tried once limit t.after earlier last) :
    Tried once (limit + 1) t.before (t :: earlier) last where
  each := by
    intro u hu
    rw [List.cons_append, List.mem_cons] at hu
    obtain rfl | hu := hu
    · exact ht
    · exact h.each u hu
  follow := ⟨rfl, h.follow⟩
  failed := by
    intro u hu
    obtain rfl | hu := List.mem_cons.mp hu
    · exact ⟨f, hfailed⟩
    · exact h.failed u hu
  within := by
    rw [List.length_cons]
    exact Nat.succ_le_succ h.within
  stopped := by
    rw [List.length_cons]
    exact h.stopped.imp_right fun hlength => by omega

/-- **The attempts at a step:** the first of them has number `n + 1`, and at most `left` follow
it.  What they come to is the result of the last one. -/
theorem runs_attempts {once : Task Stage Unit} {n left : Nat} {g g' : Stage} {log : Log}
    {r : Except Failure Unit} (h : (attempts setup once n left).Runs g log r g') :
    ∃ earlier last, Tried once (left + 1) g earlier last ∧
      log = pausedLogs setup.retry (n + 1) earlier ++ last.log ∧
      r = last.result ∧ g' = last.after := by
  -- on the attempts that are left: one that fails leaves the rest to those after it
  induction left generalizing n g log with
  | zero =>
    have hlast : Try.Of once ⟨log, r, g, g'⟩ := h
    exact ⟨[], _, tried_once hlast (Nat.le_refl 1) (.inr rfl), rfl, rfl, rfl⟩
  | succ left ih =>
    obtain ⟨first, last, q, m, rfl, hfirst, hrest⟩ := Task.runs_result_bind_iff.mp h
    cases q with
    | ok u =>
      obtain ⟨rfl, rfl, rfl⟩ := Task.runs_pure_iff.mp hrest
      have hlast : Try.Of once ⟨first, .ok (), g, g'⟩ := hfirst
      refine ⟨[], _, tried_once hlast (Nat.le_add_left 1 _) (.inl rfl), ?_, rfl, rfl⟩
      rw [List.append_nil]
      rfl
    | error f =>
      obtain ⟨_, rest, rfl, hmore⟩ := Task.runs_ask_bind_iff.mp hrest
      obtain ⟨earlier, final, htried, rfl, rfl, rfl⟩ := ih hmore
      have hthis : Try.Of once ⟨first, .error f, g, m⟩ := hfirst
      refine ⟨_ :: earlier, final, Tried.cons hthis rfl htried, ?_, rfl, rfl⟩
      rw [pausedLogs_cons, List.append_assoc]
      rfl

/-! ## §2. The verdict. -/

/-- Whether the word of a step is that of an assertion. -/
def IsAssertion (step : Step) : Prop :=
  ∃ k, Keyword.ofWord step.keyword = .ok k ∧ k.isAssertion = true

/-- A step counts as an assertion exactly if its keyword is one. -/
theorem countsAsAssertion_iff (step : Step) : countsAsAssertion step = true ↔ IsAssertion step := by
  unfold countsAsAssertion IsAssertion Keyword.ofWord
  cases Keyword.ofWord? step.keyword with
  | none =>
    constructor
    · intro h
      cases h
    · rintro ⟨k, h, -⟩
      cases h
  | some k =>
    rw [Option.map_some, beq_iff_eq, Option.some.injEq]
    constructor
    · exact fun h => ⟨k, rfl, h⟩
    · rintro ⟨k', h, hk⟩
      cases h
      exact hk

/-- **What the entry of a step says of the last attempt at it.** -/
structure Judged (suite : Suite) (c : TestCase) (index : Nat) (step : Step)
    (result : Except Failure Unit) (e : Entry) : Prop where
  /-- The entry names the step and its place. -/
  unit : e.SameUnit (newEntry suite c index step)
  pass_iff : e.status = .pass ↔ result = .ok ()
  fail_iff : e.status = .fail ↔ ∃ f, result = .error f
  error_none : result = .ok () → e.error = none
  error_some : ∀ f, result = .error f → e.error = some f.message
  /-- A step with the keyword of an assertion counts as one, on the side of the verdict. -/
  counted : IsAssertion step →
    (e.assertionsPassed, e.assertionsFailed) = if e.status = .pass then (1, 0) else (0, 1)
  uncounted : ¬IsAssertion step → (e.assertionsPassed, e.assertionsFailed) = (0, 0)

/-- The entry of a step before a picture is taken: the last attempt ended with `result`, and all
of them took `millis`. -/
def verdict (suite : Suite) (c : TestCase) (index : Nat) (step : Step) (millis : Nat)
    (result : Except Failure Unit) : Entry :=
  let e := { newEntry suite c index step with duration := millis }
  match result with
  | .ok () => passed e step
  | .error f => failed e step f

/-- An entry with a picture, or without one. -/
def withPicture (e : Entry) (picture : Option String) : Entry := { e with screenshot := picture }

/-- **The verdict says what became of the last attempt,** and only the picture is added to it later.
-/
theorem judged_verdict (millis : Nat) (result : Except Failure Unit) (picture : Option String) :
    Judged suite c index step result
      (withPicture (verdict suite c index step millis result) picture) := by
  have hcount : IsAssertion step → countsAsAssertion step = true := (countsAsAssertion_iff step).mpr
  have hnocount : ¬IsAssertion step → countsAsAssertion step = false := fun h =>
    Bool.eq_false_iff.mpr fun hcounts => h ((countsAsAssertion_iff step).mp hcounts)
  -- the picture changes no field that is judged
  cases result with
  | ok u =>
    exact
      { unit := ⟨rfl, rfl, rfl, rfl, rfl, rfl, rfl⟩
        pass_iff := ⟨fun _ => rfl, fun _ => rfl⟩
        fail_iff := ⟨fun h => (by cases h), fun ⟨_, h⟩ => (by cases h)⟩
        error_none := fun _ => rfl
        error_some := fun _ h => (by cases h)
        counted := by
          intro h
          show ((if countsAsAssertion step then 1 else 0), 0) = (1, 0)
          rw [hcount h]
          rfl
        uncounted := by
          intro h
          show ((if countsAsAssertion step then 1 else 0), 0) = (0, 0)
          rw [hnocount h]
          rfl }
  | error f =>
    exact
      { unit := ⟨rfl, rfl, rfl, rfl, rfl, rfl, rfl⟩
        pass_iff := ⟨fun h => (by cases h), fun h => (by cases h)⟩
        fail_iff := ⟨fun _ => ⟨f, rfl⟩, fun _ => rfl⟩
        error_none := fun h => (by cases h)
        error_some := fun _ h => (by cases h; rfl)
        counted := by
          intro h
          show (0, (if countsAsAssertion step then 1 else 0)) = (0, 1)
          rw [hcount h]
          rfl
        uncounted := by
          intro h
          show (0, (if countsAsAssertion step then 1 else 0)) = (0, 0)
          rw [hnocount h]
          rfl }

/-! ## §3. A step. -/

/-- All attempts at a step: the result of the last one, and the milliseconds that they took. -/
def triedStep (setup : UiSetup) (suite : Suite) (c : TestCase) (step : Step) :
    Task Stage (Except Failure Unit × Nat) := do
  let started : Int ← Task.ask .clock
  let result ← (attempts setup (attempt setup suite.baseUrl ⟨suite.id, c.id⟩ step) 0
    (setup.retry.attempts - 1)).result
  let finished : Int ← Task.ask .clock
  return (result, (finished - started).toNat)

/-- The picture that belongs to a result: only a failure has one. -/
def pictureFor (setup : UiSetup) (c : TestCase) (step : Step) :
    Except Failure Unit → Task Stage (Option String)
  | .ok () => return none
  | .error _ => failurePicture setup (failureName c step)

/-- To take a picture of a failure does not fail: the path is missing then. -/
theorem neverFails_pictureFor (result : Except Failure Unit) :
    Task.NeverFails (pictureFor setup c step result) := by
  cases result with
  | ok u =>
    intro g log r g' h
    exact ⟨none, (Task.runs_pure_iff.mp h).2.1⟩
  | error f => exact neverFails_failurePicture _

/-- **The verdict stands before the picture is taken,** which is put into the entry afterwards. -/
theorem runStep_eq (setup : UiSetup) (suite : Suite) (c : TestCase) (index : Nat) (step : Step) :
    runStep setup suite c index step = triedStep setup suite c step >>= fun (result, millis) => do
      let picture ← pictureFor setup c step result
      return withPicture (verdict suite c index step millis result) picture := by
  unfold runStep triedStep
  simp only [bind_assoc, pure_bind]
  congr 1
  funext started
  congr 1
  funext result
  congr 1
  funext finished
  cases result with
  | ok u => rfl
  | error f => rfl

/-- What is asked until the verdict on a step stands. -/
def triedLog (p : RetryPolicy) (started finished : Int) (earlier : List Try) (last : Try) : Log :=
  ⟨.clock, started⟩ :: (pausedLogs p 1 earlier ++ last.log ++ [⟨.clock, finished⟩])

theorem attempts_pos (p : RetryPolicy) : p.attempts - 1 + 1 = p.attempts := by
  have hpos : 1 ≤ p.attempts := Nat.le_max_right _ _
  omega

/-- **All attempts of a step** stand between two looks at the clock. -/
theorem runs_triedStep {g g' : Stage} {log : Log} {r : Except Failure (Except Failure Unit × Nat)}
    (h : (triedStep setup suite c step).Runs g log r g') :
    ∃ earlier last started finished,
      Tried (attempt setup suite.baseUrl ⟨suite.id, c.id⟩ step) setup.retry.attempts g earlier
        last ∧
      log = triedLog setup.retry started finished earlier last ∧
      r = .ok (last.result, (finished - started).toNat) ∧ g' = last.after := by
  obtain ⟨started, _, rfl, hstarted⟩ := Task.runs_ask_bind_iff.mp h
  obtain ⟨_, _, result, _, rfl, htries, hended⟩ := Task.runs_result_bind_iff.mp hstarted
  obtain ⟨finished, _, rfl, hfinished⟩ := Task.runs_ask_bind_iff.mp hended
  obtain ⟨rfl, rfl, rfl⟩ := Task.runs_pure_iff.mp hfinished
  obtain ⟨earlier, last, htried, rfl, rfl, rfl⟩ := runs_attempts htries
  rw [attempts_pos] at htried
  exact ⟨earlier, last, started, finished, htried, rfl, rfl, rfl⟩

/-- **HOW OFTEN A STEP IS TRIED.**  Whatever the browsers, the databases, the files, the clock and
chance do, a step that is run is tried until an attempt succeeds, and at most as often as the policy
says.  After each attempt but the last comes the pause of the policy for its number.  The entry
tells the result of the last attempt, and then only a picture is taken; of any two ways in which
that can go the entries differ in the name of the picture alone. -/
theorem runStep_retries (setup : UiSetup) (suite : Suite) (c : TestCase) (index : Nat) (step : Step)
    (b : Behaviour outside) (g : Stage) (past : Log) :
    ∃ (earlier : List Try) (last : Try) (started finished : Int) (picturing : Log) (e : Entry)
      (g' : Stage),
      Task.play b (runStep setup suite c index step) g past
        = ((.ok e, g'),
            past ++ (triedLog setup.retry started finished earlier last ++ picturing)) ∧
      Tried (attempt setup suite.baseUrl ⟨suite.id, c.id⟩ step) (max 1 setup.retry.maxAttempts) g
        earlier last ∧
      Judged suite c index step last.result e ∧
      (pictureFor setup c step last.result).Runs last.after picturing (.ok e.screenshot) g' ∧
      ∀ picturing' r' g'',
        (runStep setup suite c index step).Runs g
          (triedLog setup.retry started finished earlier last ++ picturing') r' g'' →
        ∃ picture', r' = .ok (withPicture e picture') := by
  obtain ⟨log, r, g', hplay, hruns⟩ := Task.exists_play b (runStep setup suite c index step) g past
  rw [runStep_eq] at hruns
  -- no step fails as a whole: its attempts are looked at by their result
  obtain ⟨e, -, hfails⟩ | ⟨first, picturing, ⟨result, millis⟩, m, rfl, hfirst, hrest⟩ :=
    (Task.runs_bind_iff _ _).mp hruns
  · obtain ⟨_, _, _, _, -, -, hr, -⟩ := runs_triedStep hfails
    cases hr
  obtain ⟨earlier, last, started, finished, htried, rfl, hr, rfl⟩ := runs_triedStep hfirst
  cases hr
  obtain ⟨picturing, _, picture, _, rfl, hpicture, hend⟩ :=
    ((neverFails_pictureFor last.result).runs_bind_iff _).mp hrest
  obtain ⟨rfl, rfl, rfl⟩ := Task.runs_pure_iff.mp hend
  rw [List.append_nil] at hplay
  have hlimit : setup.retry.attempts = max 1 setup.retry.maxAttempts := Nat.max_comm _ _
  rw [hlimit] at htried
  refine ⟨earlier, last, started, finished, picturing, _, g', hplay, htried,
    judged_verdict _ last.result picture, hpicture, ?_⟩
  -- whatever is asked for the picture, the attempts before it decide the rest
  intro picturing' r' g'' h
  rw [runStep_eq] at h
  have hrest' := (Task.runs_bind_of_first hfirst).mp h
  obtain ⟨_, _, picture', _, -, -, hend'⟩ :=
    ((neverFails_pictureFor last.result).runs_bind_iff _).mp hrest'
  exact ⟨picture', (Task.runs_pure_iff.mp hend').2.1⟩

end Ui

end SuiteRunner

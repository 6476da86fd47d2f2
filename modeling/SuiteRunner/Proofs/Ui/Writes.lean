import Mathlib.Data.List.Forall2
import SuiteRunner.Proofs.Outside.Transcript
import SuiteRunner.Proofs.PreProcess.Steps
import SuiteRunner.Proofs.Ui.Filling
import SuiteRunner.Proofs.Ui.Outputs
import SuiteRunner.Proofs.Ui.Retries

/-!
  SuiteRunner.Proofs.Ui.Writes
  ────────────────────────────────
  **WHICH VARIABLES A STEP WRITES.**

  Each attempt at a step runs its pre-processors, which write what they yield.  Then the step is
  filled and its keyword is carried out, which writes nothing.  Only if that succeeds there may be
  an output, and only then it is written; so of all attempts only the last one can write an output.

    • `PreProcess.Yielding.updated` — what pre-processors write, also if one of them fails,
    • `act_acted` — what an attempt does after its pre-processors,
    • `attempt_wrote`, `AttemptWrote.updated` — one attempt, and what it writes,
    • `updated_of_follow` — attempts in a row,
    • `runStep_writes` — a step under every behaviour of the outside.
-/

namespace SuiteRunner

open Store (Remembers Updated)

/-! ## §1. Pre-processors. -/

namespace PreProcess

variable {setup : PreProcessSetup} {o : Owner} {steps : List PreProcessStep} {s s' : Store}
  {log : Log} {r : Except Failure Unit}

/-- What steps write between them, by the outputs of those that succeeded. -/
def allWrites (o : Owner) (steps : List PreProcessStep) (outs : List Json) : List (Slot × String) :=
  (steps.zip outs).flatMap fun p => writes o p.1 p.2

/-- **Steps in order with what they yield:** the pipeline, and the outputs of the steps in it that
succeeded. -/
inductive Yielding (setup : PreProcessSetup) (o : Owner) : List PreProcessStep → Store → Log →
    Except Failure Unit → Store → List Json → Prop
  | done {s : Store} : Yielding setup o [] s [] (.ok ()) s []
  | failed {step : PreProcessStep} {rest : List PreProcessStep} {s : Store} {log : Log}
      {f : Failure}
      (hfails : Evaluates setup step.function (argumentTexts step (s.reads o)) log (.error f)) :
      Yielding setup o (step :: rest) s log (.error (stepFailure step.function f))
        (looked o step s) []
  | next {step : PreProcessStep} {rest : List PreProcessStep} {s s' : Store} {log more : Log}
      {out : Json} {r : Except Failure Unit} {outs : List Json}
      (hout : Evaluates setup step.function (argumentTexts step (s.reads o)) log (.ok out))
      (hrest : Yielding setup o rest (writeOutput o step out (looked o step s)) more r s' outs) :
      Yielding setup o (step :: rest) s (log ++ more) r s' (out :: outs)

theorem pipeline_iff_yielding :
    Pipeline setup o steps s log r s' ↔ ∃ outs, Yielding setup o steps s log r s' outs := by
  constructor
  · intro h
    induction h with
    | done => exact ⟨[], .done⟩
    | failed hfails => exact ⟨[], .failed hfails⟩
    | next hout _ ih =>
      obtain ⟨outs, houts⟩ := ih
      exact ⟨_ :: outs, .next hout houts⟩
  · rintro ⟨outs, h⟩
    induction h with
    | done => exact .done
    | failed hfails => exact .failed hfails
    | next hout _ ih => exact .next hout ih

/-- **Steps write what they yield,** whether one of them fails or not. -/
theorem Yielding.updated {outs : List Json} (h : Yielding setup o steps s log r s' outs) :
    Updated (allWrites o steps outs) s s' := by
  induction h with
  | @done s => exact (Remembers.refl o s).updated
  | @failed step rest s log f hfails =>
    exact ((looks_fillArguments o step.args).remembers s).updated
  | @next step rest s s' log more out r outs hout _ ih =>
    have hlooked : Remembers o s (looked o step s) := (looks_fillArguments o step.args).remembers s
    have hwrote := (wrote_writeOutput o step out (looked o step s)).updated
    exact .after_look hlooked (hwrote.trans ih)

end PreProcess

namespace Ui

open PreProcess (Yielding allWrites pipeline_iff_yielding)

variable {setup : UiSetup} {base : String} {o : Owner} {k : Keyword} {step : Step} {g g' : Stage}
  {log : Log}

/-! ## §2. After the pre-processors. -/

/-- What an attempt does after its pre-processors. -/
def act (setup : UiSetup) (base : String) (o : Owner) (k : Keyword) (step : Step) :
    Task Stage Unit := do
  let filled ← Stage.onStore (Task.update (step.fill o))
  let filled ← Task.ofExcept filled
  match ← keyword setup base k filled with
  | some output => Stage.onStore (modify (storeOutput o k filled output))
  | none => return ()

/-- An attempt at a step with a known keyword. -/
theorem attempt_eq (hword : Keyword.ofWord step.keyword = .ok k) :
    attempt setup base o step =
      Stage.onStore (PreProcess.runAll setup.preProcess o step.preProcess) >>= fun _ =>
        act setup base o k step := by
  unfold attempt act keyword
  rw [hword]
  simp only [bind_assoc]
  rfl

/-- A built-in keyword leaves the variables alone. -/
theorem store_of_keyword {r : Except Failure (Option Json)} (hk : Action.isCustom k = false)
    (h : (keyword setup base k step).Runs g log r g') : g'.store = g.store := by
  cases haction : Action.ofStep base k step with
  | error e =>
    obtain ⟨_, -, -, -, rfl⟩ | ⟨a, hok, -⟩ := Task.runs_ofExcept_bind_iff.mp h
    · rfl
    · rw [haction] at hok
      cases hok
  | ok a =>
    rw [keyword_eq_onSession haction hk] at h
    obtain ⟨m, -, rfl⟩ := Task.runs_focus_iff.mp h
    rfl

/-- Filling a step does not change which outputs it asks for. -/
theorem outputWrites_filled {s : Store} {filled : Step}
    (h : (step.fill o s).1 = .ok filled) (output : Option Json) :
    outputWrites o k filled output = outputWrites o k step output := by
  rw [(step.looks_fill o).value s] at h
  obtain ⟨locator, -, rfl⟩ := map_eq_ok_iff.mp h
  rfl

/-- **What comes of a step after its pre-processors,** from `g` to `g'`: it has an output exactly
if it succeeds with a keyword that has a marker, and the output is all that it writes. -/
structure Acted (setup : UiSetup) (base : String) (o : Owner) (k : Keyword) (step : Step)
    (g : Stage) (r : Except Failure Unit) (g' : Stage) (output : Option Json) : Prop where
  failed : ∀ f, r = .error f → output = none
  succeeded : r = .ok () → output.isSome = k.marker?.isSome
  /-- The output is what the keyword gave for the filled step. -/
  given : r = .ok () → ∃ filled m log, step.fill o g.store = (.ok filled, m) ∧
    (keyword setup base k filled).Runs ⟨g.session, m⟩ log (.ok output) ⟨g'.session, m⟩
  updated : Updated (outputWrites o k step output) g.store g'.store

theorem act_acted (hk : Action.isCustom k = false) {r : Except Failure Unit}
    (h : (act setup base o k step).Runs g log r g') :
    ∃ output, Acted setup base o k step g r g' output := by
  have hlooked : Remembers o g.store (step.fill o g.store).2 :=
    (step.looks_fill o).remembers g.store
  -- until the keyword has succeeded nothing is written
  have hfailure (f : Failure) (hr : r = .error f)
      (hstore : g'.store = (step.fill o g.store).2) :
      ∃ output, Acted setup base o k step g r g' output := by
    subst hr
    refine ⟨none, fun _ _ => rfl, (nomatch ·), (nomatch ·), ?_⟩
    rw [hstore]
    exact hlooked.updated
  unfold act at h
  obtain ⟨_, -, hfill⟩ | ⟨_, _, found, _, -, hfill, h⟩ := (Task.runs_bind_iff _ _).mp h
  · obtain ⟨_, hupdate, -⟩ := Task.runs_focus_iff.mp hfill
    cases (Task.runs_update_iff.mp hupdate).2.1
  obtain ⟨m, hupdate, rfl⟩ := Task.runs_focus_iff.mp hfill
  obtain ⟨-, hfound, rfl⟩ := Task.runs_update_iff.mp hupdate
  obtain ⟨f, -, -, hr, rfl⟩ | ⟨filled, hfilled, h⟩ := Task.runs_ofExcept_bind_iff.mp h
  · exact hfailure f hr rfl
  obtain ⟨f, hr, hkeyword⟩ | ⟨asked, _, output, ⟨session, m⟩, -, hkeyword, h⟩ :=
    (Task.runs_bind_iff _ _).mp h
  · exact hfailure f hr (store_of_keyword hk hkeyword)
  -- the keyword was carried out on the session alone, over the store that filling left
  obtain rfl : m = (step.fill o g.store).2 := store_of_keyword hk hkeyword
  have hgives : output.isSome = k.marker?.isSome :=
    keyword_gives setup base filled hk _ _ _ _ hkeyword
  have hfill : step.fill o g.store = (.ok filled, (step.fill o g.store).2) :=
    Prod.ext ((Except.ok.inj hfound).symm.trans hfilled) rfl
  cases output with
  | none =>
    obtain ⟨-, rfl, rfl⟩ := Task.runs_pure_iff.mp h
    exact ⟨none,
      { failed := fun _ _ => rfl
        succeeded := fun _ => hgives
        given := fun _ => ⟨filled, _, asked, hfill, hkeyword⟩
        updated := hlooked.updated }⟩
  | some output =>
    obtain ⟨_, hmodify, rfl⟩ := Task.runs_focus_iff.mp h
    obtain ⟨-, rfl, rfl⟩ := Task.runs_modify_iff.mp hmodify
    have hwrote := updated_storeOutput hk o filled output (step.fill o g.store).2
    rw [outputWrites_filled (congrArg Prod.fst hfill)] at hwrote
    exact ⟨some output,
      { failed := fun _ hf => (nomatch hf)
        succeeded := fun _ => hgives
        given := fun _ => ⟨filled, _, asked, hfill, hkeyword⟩
        updated := .after_look hlooked hwrote }⟩

/-! ## §3. One attempt. -/

/-- **What an attempt writes,** by the outputs of its pre-processors and the output of its keyword:
one of the pre-processors fails, or all succeed and the step goes on from what they left. -/
inductive AttemptWrote (setup : UiSetup) (base : String) (o : Owner) (k : Keyword) (step : Step)
    (t : Try) : List Json → Option Json → Prop
  | unprepared {f : Failure} {log : Log} {m : Store} {outs : List Json}
      (hresult : t.result = .error f)
      (hsteps : Yielding setup.preProcess o step.preProcess t.before.store log (.error f) m outs)
      (hafter : t.after = ⟨t.before.session, m⟩) : AttemptWrote setup base o k step t outs none
  | prepared {log : Log} {m : Store} {outs : List Json} {output : Option Json}
      (hsteps : Yielding setup.preProcess o step.preProcess t.before.store log (.ok ()) m outs)
      (hacted : Acted setup base o k step ⟨t.before.session, m⟩ t.result t.after output) :
      AttemptWrote setup base o k step t outs output

theorem attempt_wrote (hword : Keyword.ofWord step.keyword = .ok k)
    (hk : Action.isCustom k = false) {t : Try} (h : t.Of (attempt setup base o step)) :
    ∃ outs output, AttemptWrote setup base o k step t outs output := by
  unfold Try.Of at h
  rw [attempt_eq hword] at h
  obtain ⟨f, hresult, hsteps⟩ | ⟨_, _, _, _, -, hsteps, hact⟩ := (Task.runs_bind_iff _ _).mp h
  · -- one of the pre-processors failed, and the keyword was not reached
    obtain ⟨m, hm, hafter⟩ := Task.runs_focus_iff.mp hsteps
    obtain ⟨outs, hyielding⟩ := pipeline_iff_yielding.mp (PreProcess.runs_runAll_iff.mp hm)
    exact ⟨outs, none, .unprepared hresult hyielding hafter⟩
  · obtain ⟨m, hm, rfl⟩ := Task.runs_focus_iff.mp hsteps
    obtain ⟨outs, hyielding⟩ := pipeline_iff_yielding.mp (PreProcess.runs_runAll_iff.mp hm)
    obtain ⟨output, hacted⟩ := act_acted hk hact
    exact ⟨outs, output, .prepared hyielding hacted⟩

namespace AttemptWrote

variable {t : Try} {outs : List Json} {output : Option Json}

/-- An attempt that fails has no output. -/
theorem none_of_failed (h : AttemptWrote setup base o k step t outs output) {f : Failure}
    (hf : t.result = .error f) : output = none := by
  cases h with
  | unprepared => rfl
  | prepared _ hacted => exact hacted.failed f hf

/-- An attempt that succeeds has an output exactly if its keyword has a marker. -/
theorem isSome_of_succeeded (h : AttemptWrote setup base o k step t outs output)
    (hok : t.result = .ok ()) : output.isSome = k.marker?.isSome := by
  cases h with
  | unprepared hresult =>
    rw [hok] at hresult
    cases hresult
  | prepared _ hacted => exact hacted.succeeded hok

/-- **The variables that an attempt writes** are those of its pre-processors and those that ask for
its output. -/
theorem updated (h : AttemptWrote setup base o k step t outs output) :
    Updated (allWrites o step.preProcess outs ++ outputWrites o k step output)
      t.before.store t.after.store := by
  cases h with
  | unprepared _ hsteps hafter =>
    rw [hafter]
    exact hsteps.updated.trans (Remembers.refl o _).updated
  | prepared hsteps hacted => exact hsteps.updated.trans hacted.updated

end AttemptWrote

/-! ## §4. Attempts in a row. -/

/-- Attempts that failed have outputs of their pre-processors alone. -/
theorem attempts_wrote (hword : Keyword.ofWord step.keyword = .ok k)
    (hk : Action.isCustom k = false) {earlier : List Try}
    (heach : ∀ t ∈ earlier, t.Of (attempt setup base o step))
    (hfailed : ∀ t ∈ earlier, ∃ f, t.result = .error f) :
    ∃ outs, List.Forall₂ (fun t outs => AttemptWrote setup base o k step t outs none)
      earlier outs := by
  induction earlier with
  | nil => exact ⟨[], .nil⟩
  | cons t rest ih =>
    obtain ⟨ht, hrest⟩ := List.forall_mem_cons.mp heach
    obtain ⟨⟨f, hf⟩, hfailures⟩ := List.forall_mem_cons.mp hfailed
    obtain ⟨more, hmore⟩ := ih hrest hfailures
    obtain ⟨outs, output, hwrote⟩ := attempt_wrote hword hk ht
    obtain rfl : output = none := hwrote.none_of_failed hf
    exact ⟨outs :: more, .cons hwrote hmore⟩

/-- **Attempts that failed write what their pre-processors write,** one after another. -/
theorem updated_of_follow {earlier : List Try} {outs : List (List Json)}
    (hfollow : Try.Follow g earlier g')
    (hwrote : List.Forall₂ (fun t outs => AttemptWrote setup base o k step t outs none)
      earlier outs) :
    Updated (outs.flatMap (allWrites o step.preProcess)) g.store g'.store := by
  induction hwrote generalizing g with
  | nil =>
    obtain rfl : g' = g := hfollow
    exact (Remembers.refl o g'.store).updated
  | @cons t outs _ _ hfirst _ ih =>
    obtain ⟨rfl, hrest⟩ := hfollow
    have hthis := hfirst.updated
    rw [outputWrites, List.append_nil] at hthis
    exact hthis.trans (ih hrest)

/-! ## §5. A step. -/

variable {suite : Suite} {c : TestCase} {index : Nat}

/-- A picture of a failure leaves the variables alone. -/
theorem store_of_pictureFor {result : Except Failure Unit} {r : Except Failure (Option String)}
    (h : (pictureFor setup c step result).Runs g log r g') : g'.store = g.store := by
  cases result with
  | ok u =>
    obtain ⟨-, -, rfl⟩ := Task.runs_pure_iff.mp h
    rfl
  | error f =>
    have hlook := Task.runs_get_bind_iff.mp h
    by_cases hopen : g.session.isOpen
    · rw [if_pos hopen] at hlook
      obtain ⟨_, _, q, m, -, hpicture, hrest⟩ := Task.runs_result_bind_iff.mp hlook
      obtain ⟨session, -, rfl⟩ := Task.runs_focus_iff.mp hpicture
      cases q with
      | ok path =>
        obtain ⟨-, -, rfl⟩ := Task.runs_pure_iff.mp hrest
        rfl
      | error f =>
        obtain ⟨-, -, rfl⟩ := Task.runs_pure_iff.mp hrest
        rfl
    · rw [if_neg hopen] at hlook
      obtain ⟨-, -, rfl⟩ := Task.runs_pure_iff.mp hlook
      rfl

/-- The attempts of a step that is run, and the variables that the last of them leaves. -/
theorem runs_runStep {r : Except Failure Entry}
    (h : (runStep setup suite c index step).Runs g log r g') :
    ∃ earlier last e, Tried (attempt setup suite.baseUrl ⟨suite.id, c.id⟩ step)
        setup.retry.attempts g earlier last ∧ r = .ok e ∧ g'.store = last.after.store := by
  rw [runStep_eq] at h
  obtain ⟨e, -, hfails⟩ | ⟨_, _, ⟨result, millis⟩, _, -, hfirst, hrest⟩ :=
    (Task.runs_bind_iff _ _).mp h
  · obtain ⟨_, _, _, _, -, -, hr, -⟩ := runs_triedStep hfails
    cases hr
  obtain ⟨earlier, last, _, _, htried, -, hr, rfl⟩ := runs_triedStep hfirst
  cases hr
  obtain ⟨_, _, picture, _, -, hpicture, hend⟩ :=
    ((neverFails_pictureFor last.result).runs_bind_iff _).mp hrest
  obtain ⟨-, hr, rfl⟩ := Task.runs_pure_iff.mp hend
  exact ⟨earlier, last, _, htried, hr, store_of_pictureFor hpicture⟩

/-- **What a step writes,** from `g` to `g'`: `earlier` are the attempts that another one followed,
`outs` what the pre-processors yielded in each of them, and `last`, `lastOuts` and `output` belong
to the last attempt. -/
structure StepWrote (setup : UiSetup) (suite : Suite) (c : TestCase) (step : Step) (k : Keyword)
    (g g' : Stage) (earlier : List Try) (last : Try) (outs : List (List Json))
    (lastOuts : List Json) (output : Option Json) : Prop where
  tried : Tried (attempt setup suite.baseUrl ⟨suite.id, c.id⟩ step) setup.retry.attempts g earlier
    last
  /-- The earlier attempts failed, and none of them has an output. -/
  earlier_wrote : List.Forall₂ (fun t outs =>
    AttemptWrote setup suite.baseUrl ⟨suite.id, c.id⟩ k step t outs none) earlier outs
  last_wrote : AttemptWrote setup suite.baseUrl ⟨suite.id, c.id⟩ k step last lastOuts output
  /-- The last one has an output exactly if it succeeded with a keyword that has a marker. -/
  failed : ∀ f, last.result = .error f → output = none
  succeeded : last.result = .ok () → output.isSome = k.marker?.isSome
  /-- All that is written: by pre-processors, attempt after attempt, and then of the output. -/
  updated : Updated
    (outs.flatMap (allWrites ⟨suite.id, c.id⟩ step.preProcess)
      ++ (allWrites ⟨suite.id, c.id⟩ step.preProcess lastOuts
        ++ outputWrites ⟨suite.id, c.id⟩ k step output)) g.store g'.store
  /-- The output is written as a text, for each entry whose source is the marker of the keyword. -/
  asked : ∀ slot text, (slot, text) ∈ outputWrites ⟨suite.id, c.id⟩ k step output ↔
    ∃ out name source, output = some out ∧ text = valueText out ∧ k.marker? = some source ∧
      ((name, source) ∈ step.store.entries ∧ slot = .global name ∨
        (name, source) ∈ step.localStore.entries ∧ slot = .perCase ⟨suite.id, c.id⟩ name)
  no_marker : k.marker? = none → outputWrites ⟨suite.id, c.id⟩ k step output = []

/-- **WHICH VARIABLES A STEP WRITES.**  Whatever the browsers, the databases, the files, the clock
and chance do, and however often it is tried: a step with a built-in keyword writes what its
pre-processors write in each attempt and, only after an attempt that succeeded, the output of its
keyword.  The output goes to the global variables of the entries of `store` and to the local ones of
`localStore` whose source is the marker of the keyword, one write for each, and to no others. -/
theorem runStep_writes (setup : UiSetup) (suite : Suite) (c : TestCase) (index : Nat) (step : Step)
    {k : Keyword} (hword : Keyword.ofWord step.keyword = .ok k) (hk : Action.isCustom k = false)
    (b : Behaviour outside) (g : Stage) (past : Log) :
    ∃ e g' log earlier last outs lastOuts output,
      Task.play b (runStep setup suite c index step) g past = ((.ok e, g'), past ++ log) ∧
      StepWrote setup suite c step k g g' earlier last outs lastOuts output := by
  obtain ⟨log, r, g', hplay, hruns⟩ := Task.exists_play b (runStep setup suite c index step) g past
  obtain ⟨earlier, last, e, htried, rfl, hstore⟩ := runs_runStep hruns
  obtain ⟨heach, hlast⟩ := List.forall_mem_append.mp htried.each
  obtain ⟨outs, hwrote⟩ := attempts_wrote hword hk heach htried.failed
  obtain ⟨lastOuts, output, hlastWrote⟩ := attempt_wrote hword hk (hlast last List.mem_cons_self)
  refine ⟨e, g', log, earlier, last, outs, lastOuts, output, hplay,
    { tried := htried
      earlier_wrote := hwrote
      last_wrote := hlastWrote
      failed := fun f hf => hlastWrote.none_of_failed hf
      succeeded := hlastWrote.isSome_of_succeeded
      updated := ?_
      asked := fun slot text => mem_outputWrites_iff
      no_marker := outputWrites_of_no_marker _ step output }⟩
  -- the picture writes nothing, so the attempts are all that was written
  rw [hstore]
  exact (updated_of_follow htried.follow hwrote).trans hlastWrote.updated

/-- A step that asks for the title of the page, and for what its keyword does not give. -/
def titled : Step :=
  { keyword := "getTitle", store := .ofList [("t", "$title"), ("u", "$url")],
    localStore := .ofList [("l", "$title")] }

/-- An outside in which the first call is refused and later ones are answered. -/
def hesitant : Behaviour outside := fun past q =>
  match q with
  | .callBrowser _ _ => if past.length < 2 then .error (.driver "busy") else .ok (.str "Home")
  | q => idle default past q

/-- The first attempt fails, and the output of the second one is written to two variables. -/
theorem runStep_writes_second :
    Keyword.ofWord titled.keyword = .ok .getTitle ∧ Action.isCustom .getTitle = false ∧
      ∃ e g' log earlier last outs lastOuts output,
        Task.play hesitant (runStep { retry := ⟨2, 0, .fixed⟩ } default default 0 titled)
          ⟨⟨some 0, ["main"], some "main"⟩, .ofRegistry none⟩ [] = ((.ok e, g'), [] ++ log) ∧
        StepWrote { retry := ⟨2, 0, .fixed⟩ } default default titled .getTitle
          ⟨⟨some 0, ["main"], some "main"⟩, .ofRegistry none⟩ g' earlier last outs lastOuts output ∧
        g'.store.globals = [("t", "Home")] ∧ g'.store.locals = [((⟨"", ""⟩, "l"), "Home")] := by
  have hword : Keyword.ofWord titled.keyword = .ok .getTitle := by decide +kernel
  obtain ⟨e, g', log, earlier, last, outs, lastOuts, output, hplay, hwrote⟩ :=
    runStep_writes { retry := ⟨2, 0, .fixed⟩ } default default 0 titled hword rfl hesitant
      ⟨⟨some 0, ["main"], some "main"⟩, .ofRegistry none⟩ []
  refine ⟨hword, rfl, e, g', log, earlier, last, outs, lastOuts, output, hplay, hwrote, ?_, ?_⟩
  · rw [← show _ = g' from congrArg (fun p => p.1.2) hplay]
    decide +kernel
  · rw [← show _ = g' from congrArg (fun p => p.1.2) hplay]
    decide +kernel

end Ui

end SuiteRunner

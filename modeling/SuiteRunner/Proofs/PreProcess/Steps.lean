import SuiteRunner.Proofs.PreProcess.Apart
import SuiteRunner.Proofs.Variables.Lookups
import SuiteRunner.Proofs.Variables.Writes

/-!
  SuiteRunner.Proofs.PreProcess.Steps
  ────────────────────────────────
  **STEPS IN ORDER, UP TO THE FIRST THAT FAILS.**

  A step fills its arguments, evaluates its function and writes what comes out.  Filling arguments
  only looks variables up, and no function has to do with them, so a step changes variables by what
  it writes at its end and in no other way.  `Pipeline` says what comes of a list of steps, with
  the texts of the arguments as a function of what the owner reads when the step begins:

    • `names_of_mem`, `Names.mem` — which variables a step names, by its shape and its output,
    • `wrote_writeOutput` — it writes these and no others,
    • `runs_runAll_iff` — steps run as the pipeline says, and in no other way,
    • `Pipeline.failed_at` — a failure is that of one step, and later steps have no part in it.
-/

namespace SuiteRunner

namespace PreProcess

open Store (Remembers Looks looks_inject Wrote wrote_set)
open Template (injectBy)

/-! ## §1. What a step writes. -/

/-- **The variables that a step names for an output,** each with its text: the targets of `mapTo`,
which are empty if the output has no such member, or else all members of an object, or else one name
for the whole. -/
inductive Names (step : PreProcessStep) (out : Json) : String → String → Prop
  | mapped {parts : TextMap} {key name : String} {v : Json} (hmap : step.mapTo = some parts)
      (hpart : (key, name) ∈ parts.entries) (hmember : out.member? key = some v) :
      Names step out name (valueText v)
  | absent {parts : TextMap} {key name : String} (hmap : step.mapTo = some parts)
      (hpart : (key, name) ∈ parts.entries) (hmember : out.member? key = none) :
      Names step out name ""
  | member {members : List (String × Json)} {key : String} {v : Json} (hmap : step.mapTo = none)
      (hvar : step.var = none) (hobject : out = .obj members) (hmember : (key, v) ∈ members) :
      Names step out key (valueText v)
  | whole {name : String} (hmap : step.mapTo = none) (hvar : step.var = some name) :
      Names step out name (valueText out)
  | unnamed (hmap : step.mapTo = none) (hvar : step.var = none)
      (hobject : ∀ members, out ≠ .obj members) :
      Names step out step.function (valueText out)

/-- An output that nothing names is called as the function is, unless it is an object. -/
theorem assignments_unnamed {step : PreProcessStep} {out : Json} (hmap : step.mapTo = none)
    (hvar : step.var = none) (hobject : ∀ members, out ≠ .obj members) :
    assignments step out = [(step.function, valueText out)] := by
  unfold assignments outputName
  rw [hmap, hvar]
  cases out with
  | obj members => exact absurd rfl (hobject members)
  | _ => rfl

/-- **What is assigned is named by the step,** in one of the ways that it may name outputs. -/
theorem names_of_mem {step : PreProcessStep} {out : Json} {name text : String}
    (h : (name, text) ∈ assignments step out) : Names step out name text := by
  -- in the order in which a step is asked for names: a map, a variable, the output itself
  cases hmap : step.mapTo with
  | some parts =>
    unfold assignments at h
    rw [hmap] at h
    obtain ⟨⟨key, target⟩, hpart, hpair⟩ := List.mem_map.mp h
    cases hpair
    cases hmember : out.member? key with
    | some v => exact .mapped hmap hpart hmember
    | none => exact .absent hmap hpart hmember
  | none =>
    cases hvar : step.var with
    | some target =>
      unfold assignments at h
      rw [hmap, hvar, outputName, hvar] at h
      cases List.mem_singleton.mp h
      exact .whole hmap hvar
    | none =>
      by_cases hobject : ∃ members, out = .obj members
      · obtain ⟨members, rfl⟩ := hobject
        unfold assignments at h
        rw [hmap, hvar] at h
        obtain ⟨⟨key, v⟩, hmember, hpair⟩ := List.mem_map.mp h
        cases hpair
        exact .member hmap hvar rfl hmember
      · have hout := not_exists.mp hobject
        rw [assignments_unnamed hmap hvar hout] at h
        cases List.mem_singleton.mp h
        exact .unnamed hmap hvar hout

/-- **What the step names is assigned.** -/
theorem Names.mem {step : PreProcessStep} {out : Json} {name text : String}
    (h : Names step out name text) : (name, text) ∈ assignments step out := by
  cases h with
  | mapped hmap hpart hmember =>
    unfold assignments
    rw [hmap]
    exact List.mem_map.mpr ⟨_, hpart, by simp only [hmember]; rfl⟩
  | absent hmap hpart hmember =>
    unfold assignments
    rw [hmap]
    exact List.mem_map.mpr ⟨_, hpart, by simp only [hmember]; rfl⟩
  | member hmap hvar hobject hmember =>
    unfold assignments
    rw [hmap, hvar, hobject]
    exact List.mem_map.mpr ⟨_, hmember, rfl⟩
  | whole hmap hvar =>
    unfold assignments
    rw [hmap, hvar, outputName, hvar]
    exact List.mem_singleton.mpr rfl
  | unnamed hmap hvar hobject =>
    rw [assignments_unnamed hmap hvar hobject]
    exact List.mem_singleton.mpr rfl

/-- The slots that a step writes, with their texts in order. -/
def writes (o : Owner) (step : PreProcessStep) (out : Json) : List (Slot × String) :=
  (assignments step out).map fun pair => (.within o (step.scope.getD .global) pair.1, pair.2)

theorem wrote_writeAll (o : Owner) (scope : Scope) (pairs : List (String × String))
    (s : Store) :
    Wrote (pairs.map fun pair => (.within o scope pair.1, pair.2)) s
      (writeAll o scope pairs s) := by
  induction pairs generalizing s with
  | nil => exact .refl s
  | cons pair rest ih =>
    exact (wrote_set s o scope pair.1 pair.2).cons (ih (s.set o scope pair.1 pair.2))

/-- The variables that a step writes are those that it names, in its scope. -/
theorem mem_writes_iff {o : Owner} {step : PreProcessStep} {out : Json} {slot : Slot}
    {text : String} :
    (slot, text) ∈ writes o step out ↔
      ∃ name, slot = .within o (step.scope.getD .global) name ∧ Names step out name text := by
  unfold writes
  rw [List.mem_map]
  constructor
  · rintro ⟨⟨name, _⟩, hmem, hpair⟩
    cases hpair
    exact ⟨name, rfl, names_of_mem hmem⟩
  · rintro ⟨name, rfl, hnames⟩
    exact ⟨_, hnames.mem, rfl⟩

/-- **A step writes the variables that it names,** in its scope, and no others. -/
theorem wrote_writeOutput (o : Owner) (step : PreProcessStep) (out : Json) (s : Store) :
    Wrote (writes o step out) s (writeOutput o step out s) :=
  wrote_writeAll o (step.scope.getD .global) (assignments step out) s

/-! ## §2. One step. -/

/-- The texts of a step's arguments, by the values that names have. -/
def argumentTexts (step : PreProcessStep) (g : String → Option String) : List String :=
  step.args.map fun a => injectBy g (valueText a)

/-- The store after the arguments of a step were filled. -/
def looked (o : Owner) (step : PreProcessStep) (s : Store) : Store :=
  (fillArguments o step.args s).2

/-- Arguments are filled with what is read, and handed over as texts. -/
theorem looks_fillArguments (o : Owner) (args : List Json) :
    Looks o (fillArguments o args) fun g => args.map fun a => injectBy g (valueText a) := by
  induction args with
  | nil => exact .give []
  | cons a rest ih => exact (looks_inject o (valueText a)).bind fun t => ih.map fun ts => t :: ts

/-- A function is evaluated: its questions are answered in some way, and this is what comes of it,
whatever variables there are. -/
def Evaluates (setup : PreProcessSetup) (function : String) (args : List String) (log : Log)
    (r : Except Failure Json) : Prop :=
  ∀ s : Store, (output setup function args).Runs s log r s

theorem runs_output_iff {setup : PreProcessSetup} {function : String} {args : List String}
    {s s' : Store} {log : Log} {r : Except Failure Json} :
    (output setup function args).Runs s log r s' ↔
      Evaluates setup function args log r ∧ s' = s := by
  have hstateless := (aside_output (σ := Store) setup function args).toStateless
  constructor
  · exact fun h => ⟨fun u => hstateless.blind h u, hstateless.still h⟩
  · rintro ⟨h, rfl⟩
    exact h s'

/-- **What comes of evaluating a step:** its function is evaluated with the arguments filled, the
store is looked into, and a failure names the step's function. -/
theorem runs_evaluate_iff {setup : PreProcessSetup} {o : Owner} {step : PreProcessStep}
    {s s' : Store} {log : Log} {r : Except Failure Json} :
    (evaluate setup o step).Runs s log r s' ↔
      ∃ q, Evaluates setup step.function (argumentTexts step (s.reads o)) log q ∧
        r = q.mapError (stepFailure step.function) ∧ s' = looked o step s := by
  unfold evaluate
  rw [Task.runs_update_bind_iff, (looks_fillArguments o step.args).value, Task.runs_mapFailure_iff]
  constructor
  · rintro ⟨q, hq, hr⟩
    obtain ⟨heval, hs⟩ := runs_output_iff.mp hq
    exact ⟨q, heval, hr, hs⟩
  · rintro ⟨q, heval, hr, hs⟩
    exact ⟨q, runs_output_iff.mpr ⟨heval, hs⟩, hr⟩

/-- **What comes of a step:** it fails after its arguments were filled, or its output is written
over that store. -/
theorem runs_runStep_iff {setup : PreProcessSetup} {o : Owner} {step : PreProcessStep}
    {s s' : Store} {log : Log} {r : Except Failure Unit} :
    (runStep setup o step).Runs s log r s' ↔
      (∃ f, Evaluates setup step.function (argumentTexts step (s.reads o)) log (.error f) ∧
        r = .error (stepFailure step.function f) ∧ s' = looked o step s) ∨
      ∃ out, Evaluates setup step.function (argumentTexts step (s.reads o)) log (.ok out) ∧
        r = .ok () ∧ s' = writeOutput o step out (looked o step s) := by
  unfold runStep
  rw [Task.runs_bind_iff]
  -- a step evaluates its function and then writes; only the first can fail
  simp only [runs_evaluate_iff, Task.runs_modify_iff]
  constructor
  · rintro (⟨e, rfl, q, heval, hq, rfl⟩ |
      ⟨first, _, out, _, rfl, ⟨q, heval, hq, rfl⟩, rfl, rfl, rfl⟩)
    · cases q with
      | error f => exact .inl ⟨f, heval, congrArg Except.error (Except.error.inj hq), rfl⟩
      | ok out => cases hq
    · cases q with
      | error f => cases hq
      | ok _ =>
        cases hq
        rw [List.append_nil]
        exact .inr ⟨out, heval, rfl, rfl⟩
  · rintro (⟨f, heval, rfl, rfl⟩ | ⟨out, heval, rfl, rfl⟩)
    · exact .inl ⟨_, rfl, .error f, heval, rfl, rfl⟩
    · exact .inr ⟨log, [], out, _, (List.append_nil log).symm, ⟨.ok out, heval, rfl, rfl⟩, rfl, rfl,
        rfl⟩

/-! ## §3. Steps in order. -/

/-- **What comes of steps in order.**  A step that succeeds writes its output over the store that it
looked into, and the others follow; the first step that fails ends the list. -/
inductive Pipeline (setup : PreProcessSetup) (o : Owner) :
    List PreProcessStep → Store → Log → Except Failure Unit → Store → Prop
  | done {s : Store} : Pipeline setup o [] s [] (.ok ()) s
  | failed {step : PreProcessStep} {rest : List PreProcessStep} {s : Store} {log : Log}
      {f : Failure}
      (hfails : Evaluates setup step.function (argumentTexts step (s.reads o)) log (.error f)) :
      Pipeline setup o (step :: rest) s log (.error (stepFailure step.function f))
        (looked o step s)
  | next {step : PreProcessStep} {rest : List PreProcessStep} {s s' : Store} {log more : Log}
      {out : Json} {r : Except Failure Unit}
      (hout : Evaluates setup step.function (argumentTexts step (s.reads o)) log (.ok out))
      (hrest : Pipeline setup o rest (writeOutput o step out (looked o step s)) more r s') :
      Pipeline setup o (step :: rest) s (log ++ more) r s'

variable {setup : PreProcessSetup} {o : Owner} {steps : List PreProcessStep} {s s' : Store}
  {log : Log}

/-- **Steps run as the pipeline says,** and in no other way. -/
theorem runs_runAll_iff {r : Except Failure Unit} :
    (runAll setup o steps).Runs s log r s' ↔ Pipeline setup o steps s log r s' := by
  constructor
  · intro h
    -- on the steps: the first one fails, or the others run in the store that it left
    induction steps generalizing s log with
    | nil =>
      obtain ⟨rfl, rfl, rfl⟩ := Task.runs_pure_iff.mp h
      exact .done
    | cons step rest ih =>
      obtain ⟨e, rfl, hstep⟩ | ⟨first, last, _, m, rfl, hstep, hrest⟩ :=
        (Task.runs_bind_iff _ _).mp h
      · obtain ⟨f, hfails, he, rfl⟩ | ⟨_, _, he, _⟩ := runs_runStep_iff.mp hstep
        · cases he
          exact .failed hfails
        · cases he
      · obtain ⟨_, _, he, _⟩ | ⟨out, hout, -, rfl⟩ := runs_runStep_iff.mp hstep
        · cases he
        · exact .next hout (ih hrest)
  · intro h
    -- on the pipeline, back to the run
    induction h with
    | done => exact Task.runs_pure_iff.mpr ⟨rfl, rfl, rfl⟩
    | failed hfails =>
      have hstep := runs_runStep_iff.mpr (.inl ⟨_, hfails, rfl, rfl⟩)
      exact (Task.runs_bind_iff _ _).mpr (.inl ⟨_, rfl, hstep⟩)
    | next hout _ ih =>
      have hstep := runs_runStep_iff.mpr (.inr ⟨_, hout, rfl, rfl⟩)
      exact (Task.runs_bind_iff _ _).mpr (.inr ⟨_, _, _, _, rfl, hstep, ih⟩)

/-- **A list of steps fails at one of them.**  Those before it succeeded and wrote what they wrote;
it was evaluated in the store that they left, and only looked into it.  Whatever steps stand after
it, the same is asked and the same comes of it. -/
theorem Pipeline.failed_at {e : Failure} (h : Pipeline setup o steps s log (.error e) s') :
    ∃ before step after first last m f, steps = before ++ step :: after ∧ log = first ++ last ∧
      Pipeline setup o before s first (.ok ()) m ∧
      Evaluates setup step.function (argumentTexts step (m.reads o)) last (.error f) ∧
      e = stepFailure step.function f ∧ Remembers o m s' ∧
      ∀ others, Pipeline setup o (before ++ step :: others) s log (.error e) s' := by
  -- on the pipeline: each step that succeeded goes to those before the one that failed
  generalize hr : Except.error e = r at h
  induction h with
  | done => cases hr
  | @failed step rest s log f hfails =>
    cases hr
    exact ⟨[], step, rest, [], log, s, f, rfl, rfl, .done, hfails, rfl,
      (looks_fillArguments o step.args).remembers s, fun others => .failed hfails⟩
  | @next step rest s s' log more out r hout _ ih =>
    subst hr
    obtain ⟨before, failing, after, first, last, m, f, rfl, rfl, hbefore, hfails, hf, hm,
      hothers⟩ := ih rfl
    exact ⟨step :: before, failing, after, log ++ first, last, m, f, rfl,
      (List.append_assoc _ _ _).symm, .next hout hbefore, hfails, hf, hm,
      fun others => .next hout (hothers others)⟩

/-- **PRE-PROCESSORS TAKE EFFECT ONE AFTER ANOTHER.**  Whatever the outside answers, a list of steps
comes to an end, and

  1. what it asks, what comes of it and the store that it leaves are those of the pipeline, in which
     the arguments of each step are filled with what the owner reads after the steps before it;
  2. if it fails, then at one step: what was written before it stays, the step itself only looks
     variables up, and the steps after it ask nothing and change nothing;
  3. a step that succeeds looks variables up and then writes, in its own scope or else the global
     one, the variables that it names, the last text if it names one twice, and no others. -/
theorem runAll_in_order (setup : PreProcessSetup) (o : Owner) (steps : List PreProcessStep) :
    (∀ b s past, ∃ log r s', Task.play b (runAll setup o steps) s past = ((r, s'), past ++ log) ∧
      Pipeline setup o steps s log r s') ∧
    (∀ s log r s', (runAll setup o steps).Runs s log r s' ↔ Pipeline setup o steps s log r s') ∧
    (∀ s log e s', Pipeline setup o steps s log (.error e) s' →
      ∃ before step after first last m f, steps = before ++ step :: after ∧ log = first ++ last ∧
        Pipeline setup o before s first (.ok ()) m ∧
        Evaluates setup step.function (argumentTexts step (m.reads o)) last (.error f) ∧
        e = stepFailure step.function f ∧ Remembers o m s' ∧
        ∀ others, Pipeline setup o (before ++ step :: others) s log (.error e) s') ∧
    ∀ step out s, Remembers o s (looked o step s) ∧
      Wrote (writes o step out) (looked o step s) (writeOutput o step out (looked o step s)) ∧
      ∀ slot text, (slot, text) ∈ writes o step out ↔
        ∃ name, slot = .within o (step.scope.getD .global) name ∧ Names step out name text := by
  refine ⟨fun b s past => ?_, fun s log r s' => runs_runAll_iff, fun s log e s' h => h.failed_at,
    fun step out s => ⟨(looks_fillArguments o step.args).remembers s,
      wrote_writeOutput o step out _, fun slot text => mem_writes_iff⟩⟩
  obtain ⟨log, r, s', hplay, hruns⟩ := Task.exists_play b (runAll setup o steps) s past
  exact ⟨log, r, s', hplay, runs_runAll_iff.mp hruns⟩

end PreProcess

end SuiteRunner

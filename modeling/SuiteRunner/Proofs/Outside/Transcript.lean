import SuiteRunner.Outside.Request

/-!
  SuiteRunner.Proofs.Outside.Transcript
  ────────────────────────────────
  **WHAT A PROGRAM ASKS, AND WHAT IT MAKES OF THE ANSWERS.**

  A run of a program is the list of its questions with their answers, and its result.  `Runs` is
  the relation between the three; `play` gives the run under a behaviour of the outside, which may
  answer each question as it likes and remember all that was asked.  The lemmas take runs apart
  along the ways in which tasks are put together:

    • `Program.runs_bind_iff` — a run of two programs in a row is a run of each,
    • `Program.exists_play` — under every behaviour a program comes to an end,
    • `Program.play_bind`, `Task.play_bind` — the second of two in a row goes on in the past of the
      first,
    • `Task.runs_bind_iff` — a task goes on only after a success,
    • `Task.runs_bind_of_first` — the answers to its first part decide where its second part begins,
    • `Task.runs_result_iff`, `Task.runs_focus_iff`, … — one lemma for each kind of task,
    • `Task.NeverFails.runs_bind_iff` — after a task that never fails the rest always runs.
-/

namespace SuiteRunner

/-! ## §1. Runs of programs. -/

/-- A question with the answer it got. -/
abbrev Event (S : Signature) := (q : S.Query) × S.Answer q

/-- The answers of an outside: to each question, after what was asked and answered before. -/
abbrev Behaviour (S : Signature) := List (Event S) → (q : S.Query) → S.Answer q

namespace Program

variable {S : Signature} {α β : Type}

/-- **One way in which a program can go:** its questions with their answers, and its result. -/
inductive Runs : Program S α → List (Event S) → α → Prop where
  | done (a : α) : Runs (.done a) [] a
  | ask {q : S.Query} {next : S.Answer q → Program S α} {log : List (Event S)} {a : α}
      (r : S.Answer q) (rest : Runs (next r) log a) : Runs (.ask q next) (⟨q, r⟩ :: log) a

/-- A program that is done asks nothing more. -/
theorem runs_done_iff {a b : α} {log : List (Event S)} :
    Runs (.done a) log b ↔ log = [] ∧ b = a := by
  constructor
  · intro h
    cases h
    exact ⟨rfl, rfl⟩
  · rintro ⟨rfl, rfl⟩
    exact .done b

/-- A program that asks goes on with the answer, whatever it is. -/
theorem runs_ask_iff {q : S.Query} {next : S.Answer q → Program S α} {log : List (Event S)}
    {a : α} :
    Runs (.ask q next) log a ↔ ∃ r rest, log = ⟨q, r⟩ :: rest ∧ Runs (next r) rest a := by
  constructor
  · intro h
    cases h with
    | ask r rest => exact ⟨r, _, rfl, rest⟩
  · rintro ⟨r, rest, rfl, h⟩
    exact .ask r h

/-- **A run of two programs in a row is a run of the first and then one of the second.** -/
theorem runs_bind_iff (p : Program S α) (f : α → Program S β) {log : List (Event S)} {b : β} :
    Runs (p.bind f) log b ↔
      ∃ first last a, log = first ++ last ∧ Runs p first a ∧ Runs (f a) last b := by
  -- on the tree of the first program: the log is cut where that tree is done
  induction p generalizing log with
  | done a =>
    show Runs (f a) log b ↔ _
    constructor
    · intro h
      exact ⟨[], log, a, rfl, .done a, h⟩
    · rintro ⟨first, last, a', rfl, ha, hb⟩
      obtain ⟨rfl, rfl⟩ := runs_done_iff.mp ha
      exact hb
  | ask q next ih =>
    show Runs (.ask q fun r => (next r).bind f) log b ↔ _
    constructor
    · intro h
      obtain ⟨r, rest, rfl, hnext⟩ := runs_ask_iff.mp h
      obtain ⟨first, last, a, rfl, ha, hb⟩ := (ih r).mp hnext
      exact ⟨⟨q, r⟩ :: first, last, a, rfl, .ask r ha, hb⟩
    · rintro ⟨first, last, a, rfl, ha, hb⟩
      obtain ⟨r, rest, rfl, hnext⟩ := runs_ask_iff.mp ha
      exact .ask r ((ih r).mpr ⟨rest, last, a, rfl, hnext, hb⟩)

/-- A run that has come to its end does not go on: the answers decide all that is asked. -/
theorem Runs.ended {p : Program S α} {log rest : List (Event S)} {a b : α} (h : Runs p log a)
    (hlonger : Runs p (log ++ rest) b) : rest = [] ∧ b = a := by
  induction h with
  | done a => exact runs_done_iff.mp hlonger
  | ask r _ ih =>
    obtain ⟨r', log', hlog, hnext⟩ := runs_ask_iff.mp hlonger
    rw [List.cons_append] at hlog
    cases hlog
    exact ih hnext

/-- **Along one log a program runs in one way:** it ends where it ended before, with what it ended
with. -/
theorem Runs.unique {p : Program S α} {first last rest rest' : List (Event S)} {a b : α}
    (h : Runs p first a) (h' : Runs p last b) (hlog : first ++ rest = last ++ rest') :
    last = first ∧ rest' = rest ∧ b = a := by
  -- neither of the two runs goes on beyond the other
  obtain ⟨more, rfl, hrest⟩ | ⟨more, rfl, hrest⟩ := List.append_eq_append_iff.mp hlog
  · obtain ⟨rfl, hsame⟩ := h.ended h'
    exact ⟨List.append_nil first, hrest.symm, hsame⟩
  · obtain ⟨rfl, hsame⟩ := h'.ended h
    exact ⟨(List.append_nil last).symm, hrest, hsame.symm⟩

/-- A question that was asked in one of two logs in a row was asked in the first or in the second. -/
theorem cut_of_append {before after first last : List (Event S)} {e : Event S}
    (h : before ++ e :: after = first ++ last) :
    (∃ rest, first = before ++ e :: rest) ∨
      ∃ front, before = first ++ front ∧ last = front ++ e :: after := by
  obtain ⟨rest, hfirst, hrest⟩ | ⟨front, hbefore, hlast⟩ := List.append_eq_append_iff.mp h
  · cases rest with
    | nil =>
      rw [List.append_nil] at hfirst
      exact .inr ⟨[], by rw [hfirst, List.append_nil], hrest.symm⟩
    | cons e' rest =>
      cases hrest
      exact .inl ⟨rest, hfirst⟩
  · exact .inr ⟨front, hbefore, hlast⟩

/-! ## §2. Runs under a behaviour. -/

/-- The answer of a behaviour to one question, which becomes part of the past. -/
def answerOf (b : Behaviour S) (q : S.Query) : StateM (List (Event S)) (S.Answer q) :=
  fun past => (b past q, past ++ [⟨q, b past q⟩])

/-- **A program under a behaviour:** its result, and the past with its own questions. -/
def play (b : Behaviour S) (p : Program S α) (past : List (Event S)) : α × List (Event S) :=
  p.perform (answerOf b) past

/-- Under a behaviour a question gets its answer from the past and is added to it. -/
theorem play_ask (b : Behaviour S) (q : S.Query) (next : S.Answer q → Program S α)
    (past : List (Event S)) :
    play b (.ask q next) past = play b (next (b past q)) (past ++ [⟨q, b past q⟩]) := rfl

/-- **Under every behaviour a program comes to an end,** and it does so by one of its runs. -/
theorem exists_play (b : Behaviour S) (p : Program S α) (past : List (Event S)) :
    ∃ log a, play b p past = (a, past ++ log) ∧ Runs p log a := by
  -- on the tree, for every past: what is asked at its root is in the past of all that follows
  induction p generalizing past with
  | done a => exact ⟨[], a, by rw [List.append_nil]; rfl, .done a⟩
  | ask q next ih =>
    obtain ⟨log, a, hplay, hruns⟩ := ih (b past q) (past ++ [⟨q, b past q⟩])
    refine ⟨⟨q, b past q⟩ :: log, a, ?_, .ask _ hruns⟩
    rw [play_ask, hplay, List.append_assoc]
    rfl

/-- **Two programs in a row:** the second goes on in the past that the first one left. -/
theorem play_bind (b : Behaviour S) (p : Program S α) (f : α → Program S β)
    (past : List (Event S)) :
    play b (p.bind f) past = play b (f (play b p past).1) (play b p past).2 := by
  induction p generalizing past with
  | done a => rfl
  | ask q next ih =>
    show play b ((next (b past q)).bind f) (past ++ [⟨q, b past q⟩]) = _
    rw [ih]
    rfl

end Program

/-! ## §3. Runs of tasks. -/

/-- What was asked of the outside of a run, with the answers. -/
abbrev Log := List (Event outside)

namespace Task

variable {σ τ α β : Type}

/-- **One way in which a task can go** from a state: what it asks, its result and the state that
it leaves, also when it fails. -/
def Runs (t : Task σ α) (s : σ) (log : Log) (r : Except Failure α) (s' : σ) : Prop :=
  Program.Runs (t s) log (r, s')

/-- **The answers decide:** two runs from one state with one log go the same way, and end at one
place of the log. -/
theorem Runs.unique {t : Task σ α} {s m m' : σ} {first last rest rest' : Log}
    {r r' : Except Failure α} (h : Runs t s first r m) (h' : Runs t s last r' m')
    (hlog : first ++ rest = last ++ rest') : last = first ∧ rest' = rest ∧ r' = r ∧ m' = m := by
  obtain ⟨hlast, hrest, hend⟩ := Program.Runs.unique h h' hlog
  obtain ⟨hr, hm⟩ := Prod.mk.inj hend
  exact ⟨hlast, hrest, hr, hm⟩

/-- A task under a behaviour, after a past. -/
def play (b : Behaviour outside) (t : Task σ α) (s : σ) (past : Log) :
    (Except Failure α × σ) × Log :=
  Program.play b (t s) past

/-- Under every behaviour a task comes to an end by one of its runs. -/
theorem exists_play (b : Behaviour outside) (t : Task σ α) (s : σ) (past : Log) :
    ∃ log r s', play b t s past = ((r, s'), past ++ log) ∧ Runs t s log r s' := by
  obtain ⟨log, ⟨r, s'⟩, hplay, hruns⟩ := Program.exists_play b (t s) past
  exact ⟨log, r, s', hplay, hruns⟩

/-- What a task does under a behaviour is one of its runs. -/
theorem runs_play (b : Behaviour outside) (t : Task σ α) (s : σ) :
    Runs t s (play b t s []).2 (play b t s []).1.1 (play b t s []).1.2 := by
  obtain ⟨log, r, s', hplay, hruns⟩ := exists_play b t s []
  rw [hplay]
  exact hruns

section

variable {s s' : σ} {log : Log}

/-- A value that stands fixed asks nothing and changes nothing. -/
theorem runs_pure_iff {a : α} {r : Except Failure α} :
    Runs (pure a) s log r s' ↔ log = [] ∧ r = .ok a ∧ s' = s := by
  show Program.Runs (.done (.ok a, s)) log (r, s') ↔ _
  rw [Program.runs_done_iff, Prod.mk.injEq]

/-- What follows a result: the next task after a success, the failure itself after a failure. -/
def after (f : α → Task σ β) : Except Failure α × σ → Program outside (Except Failure β × σ)
  | (.ok a, s) => f a s
  | (.error e, s) => .done (.error e, s)

/-- Two tasks in a row are two programs in a row. -/
theorem bind_eq (t : Task σ α) (f : α → Task σ β) (s : σ) :
    (t >>= f) s = (t s).bind (after f) := by
  show (t s).bind _ = _
  congr 1
  funext p
  obtain ⟨r, s⟩ := p
  cases r <;> rfl

/-- **A task goes on only after a success;** a failure is the result of the whole. -/
theorem runs_bind_iff (t : Task σ α) (f : α → Task σ β) {r : Except Failure β} :
    Runs (t >>= f) s log r s' ↔
      (∃ e, r = .error e ∧ Runs t s log (.error e) s') ∨
        ∃ first last a m, log = first ++ last ∧ Runs t s first (.ok a) m ∧
          Runs (f a) m last r s' := by
  unfold Runs
  rw [bind_eq, Program.runs_bind_iff]
  constructor
  · rintro ⟨first, last, ⟨q, m⟩, rfl, ht, hf⟩
    cases q with
    | ok a => exact .inr ⟨first, last, a, m, rfl, ht, hf⟩
    | error e =>
      obtain ⟨rfl, hr⟩ := Program.runs_done_iff.mp hf
      obtain ⟨rfl, rfl⟩ := Prod.mk.inj hr
      rw [List.append_nil]
      exact .inl ⟨e, rfl, ht⟩
  · rintro (⟨e, rfl, ht⟩ | ⟨first, last, a, m, rfl, ht, hf⟩)
    · exact ⟨log, [], (.error e, s'), (List.append_nil log).symm, ht, .done _⟩
    · exact ⟨first, last, (.ok a, m), rfl, ht, hf⟩

/-- **What follows a part that is known to have run:** the answers decide that part, so the rest of
the log is a run of what comes after it. -/
theorem runs_bind_of_first {t : Task σ α} {f : α → Task σ β} {first rest : Log} {a : α} {m : σ}
    {r : Except Failure β} (ht : Runs t s first (.ok a) m) :
    Runs (t >>= f) s (first ++ rest) r s' ↔ Runs (f a) m rest r s' := by
  constructor
  · intro h
    obtain ⟨e, -, hfails⟩ | ⟨first', last', a', m', hlog, ht', hf⟩ := (runs_bind_iff t f).mp h
    · cases (Program.Runs.ended ht hfails).2
    · obtain ⟨rfl, rfl, hsame⟩ := Program.Runs.unique ht ht' hlog
      cases hsame
      exact hf
  · intro h
    exact (runs_bind_iff t f).mpr (.inr ⟨first, rest, a, m, rfl, ht, h⟩)

/-- A question is one event, and its answer is the result. -/
theorem runs_ask_iff {q : Request} {r : Except Failure q.Answer} :
    Runs (Task.ask q) s log r s' ↔ ∃ a, log = [⟨q, a⟩] ∧ r = .ok a ∧ s' = s := by
  show Program.Runs (.ask (S := outside) q fun a => .done (.ok a, s)) log (r, s') ↔ _
  rw [Program.runs_ask_iff]
  constructor
  · rintro ⟨a, rest, rfl, h⟩
    obtain ⟨rfl, hend⟩ := Program.runs_done_iff.mp h
    obtain ⟨rfl, rfl⟩ := Prod.mk.inj hend
    exact ⟨a, rfl, rfl, rfl⟩
  · rintro ⟨a, rfl, rfl, rfl⟩
    exact ⟨a, [], rfl, .done _⟩

/-- A result that stands fixed asks nothing, be it a value or a failure. -/
theorem runs_ofExcept_iff {x r : Except Failure α} :
    Runs (Task.ofExcept x) s log r s' ↔ log = [] ∧ r = x ∧ s' = s := by
  show Program.Runs (.done (x, s)) log (r, s') ↔ _
  rw [Program.runs_done_iff, Prod.mk.injEq]

/-- To fail asks nothing and leaves the state. -/
theorem runs_throw_iff {e : Failure} {r : Except Failure α} :
    Runs (throw e : Task σ α) s log r s' ↔ log = [] ∧ r = .error e ∧ s' = s := by
  show Program.Runs (.done (.error e, s)) log (r, s') ↔ _
  rw [Program.runs_done_iff, Prod.mk.injEq]

theorem runs_set_iff {m : σ} {r : Except Failure PUnit} :
    Runs (set m : Task σ PUnit) s log r s' ↔ log = [] ∧ r = .ok ⟨⟩ ∧ s' = m := by
  show Program.Runs (.done (.ok ⟨⟩, m)) log (r, s') ↔ _
  rw [Program.runs_done_iff, Prod.mk.injEq]

theorem runs_modify_iff {f : σ → σ} {r : Except Failure PUnit} :
    Runs (modify f : Task σ PUnit) s log r s' ↔ log = [] ∧ r = .ok ⟨⟩ ∧ s' = f s := by
  show Program.Runs (.done (.ok ⟨⟩, f s)) log (r, s') ↔ _
  rw [Program.runs_done_iff, Prod.mk.injEq]

/-- An update asks nothing; its value and the new state come from the old one. -/
theorem runs_update_iff {f : σ → α × σ} {r : Except Failure α} :
    Runs (Task.update f) s log r s' ↔ log = [] ∧ r = .ok (f s).1 ∧ s' = (f s).2 := by
  show Program.Runs (.done (.ok (f s).1, (f s).2)) log (r, s') ↔ _
  rw [Program.runs_done_iff, Prod.mk.injEq]

theorem runs_get_iff {r : Except Failure σ} :
    Runs (get : Task σ σ) s log r s' ↔ log = [] ∧ r = .ok s ∧ s' = s := by
  show Program.Runs (.done (.ok s, s)) log (r, s') ↔ _
  rw [Program.runs_done_iff, Prod.mk.injEq]

/-- An errand asks what its program asks, and leaves the state. -/
theorem runs_errand_iff {p : Errand α} {r : Except Failure α} :
    Runs (Task.errand p : Task σ α) s log r s' ↔
      ∃ a, Program.Runs p log a ∧ r = .ok a ∧ s' = s := by
  show Program.Runs (p.bind fun a => .done (.ok a, s)) log (r, s') ↔ _
  rw [Program.runs_bind_iff]
  constructor
  · rintro ⟨first, last, a, rfl, hp, h⟩
    obtain ⟨rfl, hend⟩ := Program.runs_done_iff.mp h
    obtain ⟨rfl, rfl⟩ := Prod.mk.inj hend
    rw [List.append_nil]
    exact ⟨a, hp, rfl, rfl⟩
  · rintro ⟨a, hp, rfl, rfl⟩
    exact ⟨log, [], a, (List.append_nil log).symm, hp, .done _⟩

/-- If failing is no failure, a task always succeeds, with what would have been its result. -/
theorem runs_result_iff {t : Task σ α} {r : Except Failure (Except Failure α)} :
    Runs t.result s log r s' ↔ ∃ q, r = .ok q ∧ Runs t s log q s' := by
  show Program.Runs ((t s).bind fun p => .done (.ok p.1, p.2)) log (r, s') ↔ _
  rw [Program.runs_bind_iff]
  constructor
  · rintro ⟨first, last, ⟨q, m⟩, rfl, ht, h⟩
    obtain ⟨rfl, hend⟩ := Program.runs_done_iff.mp h
    obtain ⟨rfl, rfl⟩ := Prod.mk.inj hend
    rw [List.append_nil]
    exact ⟨q, rfl, ht⟩
  · rintro ⟨q, rfl, ht⟩
    exact ⟨log, [], (q, s'), (List.append_nil log).symm, ht, .done _⟩

/-- A task whose failures are changed runs as before. -/
theorem runs_mapFailure_iff {f : Failure → Failure} {t : Task σ α} {r : Except Failure α} :
    Runs (t.mapFailure f) s log r s' ↔ ∃ q, Runs t s log q s' ∧ r = q.mapError f := by
  unfold Runs mapFailure
  rw [Program.runs_bind_iff]
  constructor
  · rintro ⟨first, last, ⟨q, m⟩, rfl, ht, h⟩
    obtain ⟨rfl, hend⟩ := Program.runs_done_iff.mp h
    obtain ⟨rfl, rfl⟩ := Prod.mk.inj hend
    rw [List.append_nil]
    exact ⟨q, ht, by cases q <;> rfl⟩
  · rintro ⟨q, ht, rfl⟩
    exact ⟨log, [], (q, s'), (List.append_nil log).symm, ht, by cases q <;> exact .done _⟩

/-- A task on a part of the state runs on that part, and leaves the rest to `put`. -/
theorem runs_focus_iff {get : τ → σ} {put : σ → τ → τ} {t : Task σ α} {g g' : τ}
    {r : Except Failure α} :
    Runs (t.focus get put) g log r g' ↔ ∃ m, Runs t (get g) log r m ∧ g' = put m g := by
  show Program.Runs ((t (get g)).bind fun p => .done (p.1, put p.2 g)) log (r, g') ↔ _
  rw [Program.runs_bind_iff]
  constructor
  · rintro ⟨first, last, ⟨q, m⟩, rfl, ht, h⟩
    obtain ⟨rfl, hend⟩ := Program.runs_done_iff.mp h
    obtain ⟨rfl, rfl⟩ := Prod.mk.inj hend
    rw [List.append_nil]
    exact ⟨m, ht, rfl⟩
  · rintro ⟨m, ht, rfl⟩
    exact ⟨log, [], (r, m), (List.append_nil log).symm, ht, .done _⟩

/-- **Two tasks in a row under a behaviour:** after a success the second goes on with the state and
in the past that the first one left. -/
theorem play_bind (b : Behaviour outside) (t : Task σ α) (f : α → Task σ β) (s : σ) (past : Log) :
    play b (t >>= f) s past =
      match play b t s past with
      | ((.ok a, m), mid) => play b (f a) m mid
      | ((.error e, m), mid) => ((.error e, m), mid) := by
  show Program.play b ((t >>= f) s) past = _
  rw [bind_eq, Program.play_bind]
  show Program.play b (after f (play b t s past).1) (play b t s past).2 = _
  obtain ⟨⟨r, m⟩, mid⟩ := play b t s past
  cases r with
  | ok a => rfl
  | error e => rfl

/-! ## §4. Tasks that never fail. -/

/-- A task that succeeds from every state, whatever it is answered. -/
def NeverFails (t : Task σ α) : Prop := ∀ s log r s', Runs t s log r s' → ∃ a, r = .ok a

/-- A question is answered in some way, so asking never fails. -/
theorem neverFails_ask (q : Request) : NeverFails (Task.ask q : Task σ q.Answer) := by
  intro s log r s' h
  obtain ⟨a, -, hr, -⟩ := runs_ask_iff.mp h
  exact ⟨a, hr⟩

theorem neverFails_update (f : σ → α × σ) : NeverFails (Task.update f) := by
  intro s log r s' h
  exact ⟨_, (runs_update_iff.mp h).2.1⟩

theorem neverFails_get : NeverFails (get : Task σ σ) := by
  intro s log r s' h
  exact ⟨_, (runs_get_iff.mp h).2.1⟩

/-- An errand never fails, since its program comes to an end. -/
theorem neverFails_errand (p : Errand α) : NeverFails (Task.errand p : Task σ α) := by
  intro s log r s' h
  obtain ⟨a, -, hr, -⟩ := runs_errand_iff.mp h
  exact ⟨a, hr⟩

/-- **A task of which the result is looked at never fails.** -/
theorem neverFails_result (t : Task σ α) : NeverFails t.result := by
  intro s log r s' h
  obtain ⟨q, hr, -⟩ := runs_result_iff.mp h
  exact ⟨q, hr⟩

/-- **After a task that never fails the rest always runs.** -/
theorem NeverFails.runs_bind_iff {t : Task σ α} (ht : NeverFails t) (f : α → Task σ β)
    {r : Except Failure β} :
    Runs (t >>= f) s log r s' ↔
      ∃ first last a m, log = first ++ last ∧ Runs t s first (.ok a) m ∧ Runs (f a) m last r s' := by
  rw [Task.runs_bind_iff]
  constructor
  · rintro (⟨e, -, hfails⟩ | hgoes)
    · obtain ⟨_, hok⟩ := ht _ _ _ _ hfails
      cases hok
    · exact hgoes
  · exact .inr

/-- Two tasks in a row that never fail, and what is made of their results. -/
theorem runs_both_iff {γ : Type} {t : Task σ α} {u : α → Task σ β} {g : α → β → γ}
    (ht : NeverFails t) (hu : ∀ a, NeverFails (u a)) {r : Except Failure γ} :
    Runs (do let a ← t; let b ← u a; return g a b) s log r s' ↔
      ∃ first last a m b, log = first ++ last ∧ r = .ok (g a b) ∧ Runs t s first (.ok a) m ∧
        Runs (u a) m last (.ok b) s' := by
  rw [ht.runs_bind_iff]
  constructor
  · rintro ⟨first, _, a, m, rfl, hfirst, hrest⟩
    obtain ⟨last, _, b, m', rfl, hlast, hpure⟩ := ((hu a).runs_bind_iff _).mp hrest
    obtain ⟨rfl, rfl, rfl⟩ := runs_pure_iff.mp hpure
    rw [List.append_nil]
    exact ⟨first, last, a, m, b, rfl, rfl, hfirst, hlast⟩
  · rintro ⟨first, last, a, m, b, rfl, rfl, hfirst, hlast⟩
    refine ⟨first, last, a, m, rfl, hfirst, ((hu a).runs_bind_iff _).mpr ?_⟩
    exact ⟨last, [], b, s', (List.append_nil last).symm, hlast, runs_pure_iff.mpr ⟨rfl, rfl, rfl⟩⟩

/-- A question, and what follows it. -/
theorem runs_ask_bind_iff {q : Request} {f : q.Answer → Task σ β} {r : Except Failure β} :
    Runs (Task.ask q >>= f) s log r s' ↔
      ∃ a last, log = ⟨q, a⟩ :: last ∧ Runs (f a) s last r s' := by
  rw [(neverFails_ask q).runs_bind_iff]
  constructor
  · rintro ⟨first, last, a, m, rfl, hask, hf⟩
    obtain ⟨_, rfl, hr, rfl⟩ := runs_ask_iff.mp hask
    cases hr
    exact ⟨a, last, rfl, hf⟩
  · rintro ⟨a, last, rfl, hf⟩
    exact ⟨[⟨q, a⟩], last, a, s, rfl, runs_ask_iff.mpr ⟨a, rfl, rfl, rfl⟩, hf⟩

/-- A change of the state, and what follows it. -/
theorem runs_update_bind_iff {g : σ → α × σ} {f : α → Task σ β} {r : Except Failure β} :
    Runs (Task.update g >>= f) s log r s' ↔ Runs (f (g s).1) (g s).2 log r s' := by
  rw [(neverFails_update g).runs_bind_iff]
  constructor
  · rintro ⟨first, last, a, m, rfl, hupdate, hf⟩
    obtain ⟨rfl, hr, rfl⟩ := runs_update_iff.mp hupdate
    cases hr
    exact hf
  · intro hf
    exact ⟨[], log, _, _, rfl, runs_update_iff.mpr ⟨rfl, rfl, rfl⟩, hf⟩

/-- A look at the state, and what follows it. -/
theorem runs_get_bind_iff {f : σ → Task σ β} {r : Except Failure β} :
    Runs (get >>= f) s log r s' ↔ Runs (f s) s log r s' := by
  rw [neverFails_get.runs_bind_iff]
  constructor
  · rintro ⟨first, last, a, m, rfl, hget, hf⟩
    obtain ⟨rfl, hr, rfl⟩ := runs_get_iff.mp hget
    cases hr
    exact hf
  · intro hf
    exact ⟨[], log, s, s, rfl, runs_get_iff.mpr ⟨rfl, rfl, rfl⟩, hf⟩

/-- A result that is given without a question, and what follows it. -/
theorem runs_ofExcept_bind_iff {x : Except Failure α} {f : α → Task σ β} {r : Except Failure β} :
    Runs (Task.ofExcept x >>= f) s log r s' ↔
      (∃ e, x = .error e ∧ log = [] ∧ r = .error e ∧ s' = s) ∨
        ∃ a, x = .ok a ∧ Runs (f a) s log r s' := by
  rw [runs_bind_iff]
  constructor
  · rintro (⟨e, rfl, hrun⟩ | ⟨first, last, a, m, rfl, hrun, hf⟩)
    · obtain ⟨rfl, hx, rfl⟩ := runs_ofExcept_iff.mp hrun
      exact .inl ⟨e, hx.symm, rfl, rfl, rfl⟩
    · obtain ⟨rfl, hx, rfl⟩ := runs_ofExcept_iff.mp hrun
      exact .inr ⟨a, hx.symm, hf⟩
  · rintro (⟨e, rfl, rfl, rfl, rfl⟩ | ⟨a, rfl, hf⟩)
    · exact .inl ⟨e, rfl, runs_ofExcept_iff.mpr ⟨rfl, rfl, rfl⟩⟩
    · exact .inr ⟨[], log, a, s, rfl, runs_ofExcept_iff.mpr ⟨rfl, rfl, rfl⟩, hf⟩

/-- A program without a state, and what follows it. -/
theorem runs_errand_bind_iff {p : Errand α} {f : α → Task σ β} {r : Except Failure β} :
    Runs (Task.errand p >>= f) s log r s' ↔
      ∃ first last a, log = first ++ last ∧ Program.Runs p first a ∧ Runs (f a) s last r s' := by
  rw [(neverFails_errand p).runs_bind_iff]
  constructor
  · rintro ⟨first, last, a, m, rfl, herrand, hf⟩
    obtain ⟨_, hp, hr, rfl⟩ := runs_errand_iff.mp herrand
    cases hr
    exact ⟨first, last, a, rfl, hp, hf⟩
  · rintro ⟨first, last, a, rfl, hp, hf⟩
    exact ⟨first, last, a, s, rfl, runs_errand_iff.mpr ⟨a, hp, rfl, rfl⟩, hf⟩

/-- A task whose failure is no failure, and what follows its result. -/
theorem runs_result_bind_iff {t : Task σ α} {f : Except Failure α → Task σ β}
    {r : Except Failure β} :
    Runs (t.result >>= f) s log r s' ↔
      ∃ first last q m, log = first ++ last ∧ Runs t s first q m ∧ Runs (f q) m last r s' := by
  rw [(neverFails_result t).runs_bind_iff]
  constructor
  · rintro ⟨first, last, a, m, rfl, hresult, hf⟩
    obtain ⟨q, hq, ht⟩ := runs_result_iff.mp hresult
    cases hq
    exact ⟨first, last, a, m, rfl, ht, hf⟩
  · rintro ⟨first, last, q, m, rfl, ht, hf⟩
    exact ⟨first, last, q, m, rfl, runs_result_iff.mpr ⟨q, rfl, ht⟩, hf⟩

end

end Task

/-! ## §5. An outside in which little happens. -/

/-- Files are there, no browser fails, and no server answers. -/
def idle (tree : FileTree) : Behaviour outside := fun past q =>
  match q with
  | .createBrowser => .ok past.length
  | .launchBrowser _ => .ok "main"
  | .callBrowser _ _ => .ok .null
  | .closeBrowser _ => .ok ()
  | .firstRow _ _ _ => .ok none
  | .exchange _ => .error "refused"
  | .files _ => tree
  | .readText _ => .error "missing"
  | .makeDirectories _ => .ok ()
  | .writeText _ _ => .ok ()
  | .openRegistry _ => .error (.driver "missing")
  | .saveRegistry _ _ => ()
  | .variable _ => none
  | .clock => 0
  | .moment => 0
  | .draw _ => 0
  | .madeUp _ => ""
  | .nonce => ⟨List.replicate 12 1, rfl⟩
  | .pause _ => ()
  | .print _ => ()

end SuiteRunner

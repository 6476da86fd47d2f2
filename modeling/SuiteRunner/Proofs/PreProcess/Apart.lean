import SuiteRunner.PreProcess.Pipeline
import SuiteRunner.Proofs.Browser.Session
import SuiteRunner.Proofs.Outside.InStep

/-!
  SuiteRunner.Proofs.PreProcess.Apart
  ────────────────────────────────
  **WHAT RUNS BEFORE A STEP ASKS NOTHING OF BROWSERS.**

  A task is apart if none of its questions is put to a browser, whatever it is answered.  Most of
  what runs before a step is even aside: it neither reads nor changes the state that it runs in, and
  all that it asks goes to chance and made-up data, to the clock, to the environment and to
  databases.  Such tasks in a row are aside, so it is enough to look at the questions themselves.

    • `Task.Asks.bind`, `Task.Aside.ask`, … — one lemma for each kind of task,
    • `PreProcess.aside_output` — no function has to do with the state,
    • `PreProcess.asks_runAll` — what the functions that run before a step ask,
    • `PreProcess.apart_runAll` — so they are apart.
-/

namespace SuiteRunner

/-! ## §1. What a task may ask. -/

/-- What functions ask for: chance, made-up data, the time, the environment and databases. -/
def Request.forFunctions : Request → Bool
  | .firstRow _ _ _ => true
  | .variable _ => true
  | .moment => true
  | .draw _ => true
  | .madeUp _ => true
  | .nonce => true
  | _ => false

namespace Task

variable {σ α β : Type} {P Q : Request → Prop}

/-- **A task that asks certain questions and no others.** -/
def Asks (P : Request → Prop) (t : Task σ α) : Prop :=
  ∀ s log r s', t.Runs s log r s' → ∀ e ∈ log, P e.1

/-- **A task that asks nothing of browsers.** -/
abbrev Apart (t : Task σ α) : Prop := t.Asks fun q => q.toBrowsers = false

/-- **A task that has nothing to do with its state,** and asks what functions ask. -/
structure Aside (t : Task σ α) : Prop extends Stateless t where
  asks : t.Asks fun q => q.forFunctions = true

namespace Asks

/-- A task that asks less also asks no more. -/
theorem mono {t : Task σ α} (ht : t.Asks P) (h : ∀ q, P q → Q q) : t.Asks Q :=
  fun s log r s' hruns e he => h e.1 (ht s log r s' hruns e he)

theorem ofExcept (x : Except Failure α) : Asks P (Task.ofExcept x : Task σ α) := by
  intro s log r s' hruns e he
  obtain ⟨rfl, -, -⟩ := runs_ofExcept_iff.mp hruns
  cases he

/-- A question asks for itself. -/
theorem ask {q : Request} (hq : P q) : Asks P (Task.ask q : Task σ q.Answer) := by
  intro s log r s' hruns e he
  obtain ⟨a, rfl, -, -⟩ := runs_ask_iff.mp hruns
  exact List.mem_singleton.mp he ▸ hq

/-- To change the state is to ask nothing. -/
theorem update (f : σ → α × σ) : Asks P (Task.update f) := by
  intro s log r s' hruns e he
  obtain ⟨rfl, -, -⟩ := runs_update_iff.mp hruns
  cases he

theorem change (f : σ → σ) : Asks P (modify f : Task σ PUnit) := by
  intro s log r s' hruns e he
  obtain ⟨rfl, -, -⟩ := runs_modify_iff.mp hruns
  cases he

/-- **Two tasks in a row ask what both of them ask,** and nothing else. -/
theorem bind {t : Task σ α} {f : α → Task σ β} (ht : Asks P t) (hf : ∀ a, Asks P (f a)) :
    Asks P (t >>= f) := by
  intro s log r s' hruns e he
  obtain ⟨_, -, hfails⟩ | ⟨first, last, a, m, rfl, hfirst, hlast⟩ := (runs_bind_iff t f).mp hruns
  · exact ht _ _ _ _ hfails e he
  obtain hmem | hmem := List.mem_append.mp he
  · exact ht _ _ _ _ hfirst e hmem
  · exact hf a _ _ _ _ hlast e hmem

/-- A failure under another name was asked for in the same way. -/
theorem mapFailure {t : Task σ α} (ht : Asks P t) (f : Failure → Failure) :
    Asks P (t.mapFailure f) := by
  intro s log r s' hruns
  obtain ⟨q, hq, -⟩ := runs_mapFailure_iff.mp hruns
  exact ht _ _ _ _ hq

end Asks

namespace Aside

theorem ofExcept (x : Except Failure α) : Aside (Task.ofExcept x : Task σ α) :=
  ⟨.ofExcept x, .ofExcept x⟩

theorem pure (a : α) : Aside (Pure.pure a : Task σ α) := .ofExcept (.ok a)

theorem throw (f : Failure) : Aside (MonadExcept.throw f : Task σ α) := .ofExcept (.error f)

/-- A question of the kind that functions ask is aside. -/
theorem ask {q : Request} (hq : q.forFunctions = true) :
    Aside (Task.ask q : Task σ q.Answer) :=
  ⟨.ask q, .ask hq⟩

/-- An errand is aside if its program asks only what functions may ask. -/
theorem errand {p : Errand α}
    (hp : ∀ {log a}, Program.Runs p log a → ∀ e ∈ log, e.1.forFunctions = true) :
    Aside (Task.errand p : Task σ α) where
  toStateless := .errand p
  asks s log r s' hruns := by
    obtain ⟨a, hprogram, -, -⟩ := runs_errand_iff.mp hruns
    exact hp hprogram

/-- **Two tasks in a row are aside** if both are. -/
theorem bind {t : Task σ α} {f : α → Task σ β} (ht : Aside t) (hf : ∀ a, Aside (f a)) :
    Aside (t >>= f) :=
  ⟨.bind ht.toStateless fun a => (hf a).toStateless, .bind ht.asks fun a => (hf a).asks⟩

end Aside

end Task

/-! ## §2. Functions. -/

variable {σ : Type}

/-- Looking up variables asks the environment alone. -/
theorem asks_of_runs_lookUp {names : List String} :
    ∀ {log : Log} {known : Surroundings}, Program.Runs (lookUp names) log known →
      ∀ e ∈ log, e.1.forFunctions = true := by
  induction names with
  | nil =>
    intro log known h e he
    obtain ⟨rfl, -⟩ := Program.runs_done_iff.mp h
    cases he
  | cons name rest ih =>
    intro log known h e he
    obtain ⟨value, log, rfl, hrest⟩ := Program.runs_ask_iff.mp h
    have hmap : Program.Runs ((lookUp rest).bind fun more => .done ((name, value) :: more)) log
        known := hrest
    obtain ⟨first, last, more, rfl, hmore, hend⟩ := (Program.runs_bind_iff _ _).mp hmap
    obtain ⟨rfl, -⟩ := Program.runs_done_iff.mp hend
    rw [List.append_nil] at he
    obtain rfl | hmem := List.mem_cons.mp he
    · rfl
    · exact ih hmore e hmem

/-- Looking variables of the environment up is aside. -/
theorem aside_lookUp (names : List String) :
    (Task.errand (lookUp names) : Task σ Surroundings).Aside :=
  .errand asks_of_runs_lookUp

namespace FakeData

/-- A value that is made up outside is one question. -/
theorem aside_madeUp (kind : MadeUp) : (madeUp kind : Task σ String).Aside := .ask rfl

/-- A number that is drawn is one question too. -/
theorem aside_numberBetween (low high : Nat) : (numberBetween low high : Task σ Nat).Aside :=
  .bind (.ask rfl) fun _ => .pure _

/-- Two questions in a row, and what is made of the answers. -/
theorem aside_two {α β γ : Type} {t : Task σ α} {u : Task σ β} (ht : t.Aside) (hu : u.Aside)
    (g : α → β → γ) : (do let a ← t; let b ← u; return g a b : Task σ γ).Aside :=
  .bind ht fun _ => .bind hu fun _ => .pure _

theorem aside_address : (address : Task σ String).Aside :=
  aside_two (aside_numberBetween _ _) (aside_madeUp _) _

theorem aside_wordAndNumber : (wordAndNumber : Task σ String).Aside :=
  aside_two (aside_madeUp _) (aside_numberBetween _ _) _

/-- Values are made up outside, whatever their kind. -/
theorem aside_value (kind : String) : (value kind : Task σ String).Aside := by
  unfold value
  split
  case h_8 => exact aside_address
  case h_13 => exact aside_wordAndNumber
  all_goals exact aside_madeUp _

/-- A user is put together of made-up texts, aside. -/
theorem aside_user : (user : Task σ Json).Aside := by
  apply Task.Aside.bind (aside_madeUp _)
  intro first
  apply Task.Aside.bind (aside_madeUp _)
  intro last
  apply Task.Aside.bind (aside_numberBetween _ _)
  intro suffix
  apply Task.Aside.bind (aside_value _)
  intro phone
  apply Task.Aside.bind (aside_value _)
  intro password
  apply Task.Aside.bind (aside_value _)
  intro address
  exact aside_two (aside_value _) (aside_value _) _

end FakeData

namespace PreProcess

/-- The time is asked for once, whatever the pattern is. -/
theorem aside_timeText (function : String) (form : Option String) :
    (timeText function form : Task σ String).Aside := by
  apply Task.Aside.bind (.ask rfl)
  intro now
  dsimp only
  split
  · exact .pure _
  · exact .pure _
  · exact .pure _
  · exact .pure _
  · split
    · exact .pure _
    · exact .throw _

/-- A cipher is given, or its key is looked up. -/
theorem aside_cipher (setup : PreProcessSetup) : (cipher setup : Task σ TextCipher).Aside := by
  unfold cipher
  split
  · exact .pure _
  · exact .bind (aside_lookUp _) fun _ => .ofExcept _

/-- To make a text secret takes a cipher and a nonce. -/
theorem aside_encrypt (setup : PreProcessSetup) (text : String) :
    (encrypt setup text : Task σ String).Aside :=
  .bind (aside_cipher setup) fun _ => .bind (.ask rfl) fun _ => .pure _

/-- The first row of a query takes the settings of its database, and then one question. -/
theorem aside_firstRow (database sql : String) (params : List String) :
    (firstRow database sql params : Task σ Json).Aside := by
  apply Task.Aside.bind (aside_lookUp _)
  intro known
  apply Task.Aside.bind (.ofExcept _)
  intro config
  apply Task.Aside.bind (.ask rfl)
  intro answer
  exact .bind (.ofExcept _) fun _ => .pure _

/-- **No function has to do with the state,** nor asks anything that functions do not ask. -/
theorem aside_output (setup : PreProcessSetup) (function : String) (args : List String) :
    (output setup function args : Task σ Json).Aside := by
  unfold output
  split
  · exact .bind (FakeData.aside_value _) fun _ => .pure _
  · exact .bind (FakeData.aside_value _) fun _ => .pure _
  · exact .bind (aside_timeText _ _) fun _ => .pure _
  · exact .bind (aside_timeText _ _) fun _ => .pure _
  · split
    · exact .bind (aside_encrypt setup _) fun _ => .pure _
    · exact .throw _
  · exact FakeData.aside_user
  · split
    · exact aside_firstRow _ _ _
    · exact .throw _
    · exact .throw _
  · split
    · exact .bind (FakeData.aside_value _) fun _ => .pure _
    · exact .throw _

/-- One function with its arguments and its outputs asks what the function asks. -/
theorem asks_runStep (setup : PreProcessSetup) (o : Owner) (step : PreProcessStep) :
    (runStep setup o step).Asks fun q => q.forFunctions = true := by
  have hevaluate : (evaluate setup o step).Asks fun q => q.forFunctions = true :=
    .bind (.update _) fun args => (aside_output setup step.function args).asks.mapFailure _
  exact .bind hevaluate fun _ => .change _

/-- **What runs before a step asks what functions ask,** however it ends. -/
theorem asks_runAll (setup : PreProcessSetup) (o : Owner) (steps : List PreProcessStep) :
    (runAll setup o steps).Asks fun q => q.forFunctions = true := by
  induction steps with
  | nil => exact (Task.Aside.pure ()).asks
  | cons step rest ih => exact .bind (asks_runStep setup o step) fun _ => ih

/-- A pipeline of functions asks nothing of browsers. -/
theorem apart_runAll (setup : PreProcessSetup) (o : Owner) (steps : List PreProcessStep) :
    (runAll setup o steps).Apart :=
  (asks_runAll setup o steps).mono fun q hq => by
    cases q <;> first | rfl | cases hq

end PreProcess

end SuiteRunner

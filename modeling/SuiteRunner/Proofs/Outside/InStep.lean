import SuiteRunner.Proofs.Outside.Transcript

/-!
  SuiteRunner.Proofs.Outside.InStep
  ────────────────────────────────
  **WHAT A TASK MAKES OF ITS STATE.**

  Two questions about a task and its state: how the state it leaves is related to the one it was
  given, and whether two runs that begin in related states and get the same answers stay in step.
  A task that is put together from parts inherits the answers from them:

    • `Task.Stateless` — the state plays no part at all,
    • `Task.Built` — the grammar of tasks over certain smallest ones,
    • `Task.Built.keeps` — what the smallest tasks keep of a state is kept by all,
    • `Task.Built.inStep` — where the smallest tasks stay in step, all do.
-/

namespace SuiteRunner

namespace Task

variable {σ α β : Type}

/-! ## §1. Tasks to which the state is nothing. -/

/-- **A task that has nothing to do with its state.** -/
structure Stateless (t : Task σ α) : Prop where
  /-- The state stays as it is. -/
  still : ∀ {s log r s'}, t.Runs s log r s' → s' = s
  /-- In every state the same answers lead to the same result. -/
  blind : ∀ {s log r s'}, t.Runs s log r s' → ∀ u, t.Runs u log r u

namespace Stateless

/-- A result or a failure that is there already takes no state. -/
theorem ofExcept (x : Except Failure α) : Stateless (Task.ofExcept x : Task σ α) where
  still hruns := (runs_ofExcept_iff.mp hruns).2.2
  blind hruns u := by
    obtain ⟨rfl, rfl, -⟩ := runs_ofExcept_iff.mp hruns
    exact runs_ofExcept_iff.mpr ⟨rfl, rfl, rfl⟩

theorem pure (a : α) : Stateless (Pure.pure a : Task σ α) := .ofExcept (.ok a)

theorem throw (f : Failure) : Stateless (MonadExcept.throw f : Task σ α) := .ofExcept (.error f)

/-- A question has nothing to do with the state. -/
theorem ask (q : Request) : Stateless (Task.ask q : Task σ q.Answer) where
  still hruns := by
    obtain ⟨a, -, -, hs⟩ := runs_ask_iff.mp hruns
    exact hs
  blind hruns u := by
    obtain ⟨a, rfl, rfl, -⟩ := runs_ask_iff.mp hruns
    exact runs_ask_iff.mpr ⟨a, rfl, rfl, rfl⟩

/-- A program without a state has nothing to do with one. -/
theorem errand (p : Errand α) : Stateless (Task.errand p : Task σ α) where
  still hruns := by
    obtain ⟨a, -, -, hs⟩ := runs_errand_iff.mp hruns
    exact hs
  blind hruns u := by
    obtain ⟨a, hp, rfl, -⟩ := runs_errand_iff.mp hruns
    exact runs_errand_iff.mpr ⟨a, hp, rfl, rfl⟩

/-- **Two tasks in a row have nothing to do with the state** if neither of them has. -/
theorem bind {t : Task σ α} {f : α → Task σ β} (ht : Stateless t) (hf : ∀ a, Stateless (f a)) :
    Stateless (t >>= f) where
  still hruns := by
    obtain ⟨_, -, hfails⟩ | ⟨first, last, a, m, -, hfirst, hlast⟩ := (runs_bind_iff t f).mp hruns
    · exact ht.still hfails
    · exact ((hf a).still hlast).trans (ht.still hfirst)
  blind hruns u := by
    obtain ⟨e, rfl, hfails⟩ | ⟨first, last, a, m, rfl, hfirst, hlast⟩ :=
      (runs_bind_iff t f).mp hruns
    · exact (runs_bind_iff t f).mpr (.inl ⟨e, rfl, ht.blind hfails u⟩)
    · exact (runs_bind_iff t f).mpr
        (.inr ⟨first, last, a, u, rfl, ht.blind hfirst u, (hf a).blind hlast u⟩)

end Stateless

/-! ## §2. Tasks over smallest ones. -/

/-- **The grammar of tasks over smallest ones.** -/
inductive Built (Small : (α : Type) → Task σ α → Prop) : {α : Type} → Task σ α → Prop where
  | small {α : Type} {t : Task σ α} (h : Small α t) : Built Small t
  | stateless {α : Type} {t : Task σ α} (h : t.Stateless) : Built Small t
  | bind {α β : Type} {t : Task σ α} {f : α → Task σ β} (ht : Built Small t)
      (hf : ∀ a, Built Small (f a)) : Built Small (t >>= f)
  | result {α : Type} {t : Task σ α} (ht : Built Small t) : Built Small t.result
  | mapFailure {α : Type} {t : Task σ α} (ht : Built Small t) (f : Failure → Failure) :
      Built Small (t.mapFailure f)

/-- **A task keeps a relation** between the state it is given and the one it leaves. -/
def Keeps (R : σ → σ → Prop) (t : Task σ α) : Prop := ∀ s log r s', t.Runs s log r s' → R s s'

/-- **A task stays in step:** from a related state the same answers lead to the same result and to a
related state. -/
def InStep (R : σ → σ → Prop) (t : Task σ α) : Prop :=
  ∀ s u log r s', R s u → t.Runs s log r s' → ∃ u', t.Runs u log r u' ∧ R s' u'

variable {Small : (α : Type) → Task σ α → Prop} {R : σ → σ → Prop} {t : Task σ α}

/-- **What the smallest tasks keep is kept by all.** -/
theorem Built.keeps (hrefl : ∀ s, R s s) (htrans : ∀ {s m s'}, R s m → R m s' → R s s')
    (hsmall : ∀ {α : Type} {t : Task σ α}, Small α t → Keeps R t) (h : Built Small t) :
    Keeps R t := by
  -- along the grammar; the states before, between and after two tasks in a row need transitivity
  induction h with
  | small h => exact hsmall h
  | stateless h =>
    intro s log r s' hruns
    rw [h.still hruns]
    exact hrefl s
  | @bind _ _ t f _ _ iht ihf =>
    intro s log r s' hruns
    obtain ⟨_, -, hfails⟩ | ⟨first, last, a, m, -, hfirst, hlast⟩ := (runs_bind_iff t f).mp hruns
    · exact iht _ _ _ _ hfails
    · exact htrans (iht _ _ _ _ hfirst) (ihf a _ _ _ _ hlast)
  | result _ ih =>
    intro s log r s' hruns
    obtain ⟨q, -, hq⟩ := runs_result_iff.mp hruns
    exact ih _ _ _ _ hq
  | mapFailure _ f ih =>
    intro s log r s' hruns
    obtain ⟨q, hq, -⟩ := runs_mapFailure_iff.mp hruns
    exact ih _ _ _ _ hq

/-- **Where the smallest tasks stay in step, all do.** -/
theorem Built.inStep (hsmall : ∀ {α : Type} {t : Task σ α}, Small α t → InStep R t)
    (h : Built Small t) : InStep R t := by
  -- along the grammar; two tasks in a row meet in a state that is related again, and go the same
  -- way from there because the first one had the same result
  induction h with
  | small h => exact hsmall h
  | stateless h =>
    intro s u log r s' hsame hruns
    rw [h.still hruns]
    exact ⟨u, h.blind hruns u, hsame⟩
  | @bind _ _ t f _ _ iht ihf =>
    intro s u log r s' hsame hruns
    obtain ⟨e, rfl, hfails⟩ | ⟨first, last, a, m, rfl, hfirst, hlast⟩ :=
      (runs_bind_iff t f).mp hruns
    · obtain ⟨u', hu, hsame'⟩ := iht _ _ _ _ _ hsame hfails
      exact ⟨u', (runs_bind_iff t f).mpr (.inl ⟨e, rfl, hu⟩), hsame'⟩
    · obtain ⟨w, hu, hmid⟩ := iht _ _ _ _ _ hsame hfirst
      obtain ⟨u', hw, hsame'⟩ := ihf a _ _ _ _ _ hmid hlast
      exact ⟨u', (runs_bind_iff t f).mpr (.inr ⟨first, last, a, w, rfl, hu, hw⟩), hsame'⟩
  | result _ ih =>
    intro s u log r s' hsame hruns
    obtain ⟨q, rfl, hq⟩ := runs_result_iff.mp hruns
    obtain ⟨u', hu, hsame'⟩ := ih _ _ _ _ _ hsame hq
    exact ⟨u', runs_result_iff.mpr ⟨q, rfl, hu⟩, hsame'⟩
  | mapFailure _ f ih =>
    intro s u log r s' hsame hruns
    obtain ⟨q, hq, rfl⟩ := runs_mapFailure_iff.mp hruns
    obtain ⟨u', hu, hsame'⟩ := ih _ _ _ _ _ hsame hq
    exact ⟨u', runs_mapFailure_iff.mpr ⟨q, hu, rfl⟩, hsame'⟩

namespace Built

theorem ofExcept (x : Except Failure α) : Built Small (Task.ofExcept x) := .stateless (.ofExcept x)

theorem pure (a : α) : Built Small (Pure.pure a : Task σ α) := .stateless (.pure a)

theorem throw (f : Failure) : Built Small (MonadExcept.throw f : Task σ α) := .stateless (.throw f)

/-- Questions may be asked between the smallest tasks. -/
theorem ask (q : Request) : Built Small (Task.ask q : Task σ q.Answer) := .stateless (.ask q)

end Built

end Task

end SuiteRunner

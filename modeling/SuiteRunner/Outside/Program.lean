/-!
  SuiteRunner.Outside.Program
  ────────────────────────────────
  **PROGRAMS THAT ASK THE OUTSIDE.**

  A program is a tree: it is done with a result, or it asks one question and goes on with the
  answer.  What the outside does is no part of it, so a statement about a program for all answers
  is a statement about every behaviour of the outside.  `perform` gives a program the answers of a
  monad: those of a rehearsed world, or those of the real one.
-/

namespace SuiteRunner

/-- Questions, and the type of the answer to each. -/
structure Signature where
  Query : Type
  Answer : Query → Type

/-- A program that asks questions. -/
inductive Program (S : Signature) (α : Type) where
  | done (a : α) : Program S α
  | ask (q : S.Query) (next : S.Answer q → Program S α) : Program S α

namespace Program

variable {S : Signature} {α β γ : Type}

/-- One program, and then another that depends on its result. -/
def bind : Program S α → (α → Program S β) → Program S β
  | .done a, f => f a
  | .ask q next, f => .ask q fun r => (next r).bind f

instance : Monad (Program S) where
  pure := .done
  bind := bind

theorem bind_done (p : Program S α) : p.bind .done = p := by
  induction p with
  | done a => rfl
  | ask q next ih => simp only [bind, ih]

theorem bind_assoc (p : Program S α) (f : α → Program S β) (g : β → Program S γ) :
    (p.bind f).bind g = p.bind fun a => (f a).bind g := by
  induction p with
  | done a => rfl
  | ask q next ih => simp only [bind, ih]

instance : LawfulMonad (Program S) :=
  LawfulMonad.mk' (Program S) bind_done (fun _ _ => rfl) bind_assoc

/-- The program that asks one question. -/
def query (q : S.Query) : Program S (S.Answer q) := .ask q .done

/-- **A program with the answers of a monad.** -/
def perform {m : Type → Type} [Monad m] (answer : (q : S.Query) → m (S.Answer q)) :
    Program S α → m α
  | .done a => pure a
  | .ask q next => do perform answer (next (← answer q))

end Program

end SuiteRunner

import Mathlib.Data.List.Basic
import Mathlib.Data.List.Perm.Basic
import Mathlib.Logic.Relation

/-!
  SuiteRunner.Proofs.Run.Pool
  ────────────────────────────────
  **JOBS THAT RUN A FEW AT A TIME.**

  A pool takes up jobs in their order while fewer than a limit of them run, and any job that runs
  may be the next one to end.  The order in which jobs end is all that is seen of such a run:

    • `Pool.Completes.perm` — every job ends, and ends once,
    • `Pool.Reaches.within` — the limit is kept,
    • `Pool.exists_completion` — a pool that may run one job is never stuck,
    • `Pool.completes_in_order`, `Pool.completes_of_perm` — the order of the jobs is always one of
      the orders, and every order is one if the limit allows to run all jobs at a time.
-/

namespace SuiteRunner

/-- Jobs that are waiting, that are running, and that have ended, the last one at the end. -/
structure Pool (α : Type) where
  waiting : List α
  running : List α
  ended : List α

namespace Pool

variable {α : Type} {limit : Nat} {p q : Pool α}

/-! ## §1. Steps. -/

/-- **What a pool does next:** it takes up the first job that waits, or one that runs ends. -/
inductive Step (limit : Nat) : Pool α → Pool α → Prop where
  | start {a : α} {waiting running ended : List α} (free : running.length < limit) :
      Step limit ⟨a :: waiting, running, ended⟩ ⟨waiting, running ++ [a], ended⟩
  | finish {a : α} {waiting before after ended : List α} :
      Step limit ⟨waiting, before ++ a :: after, ended⟩ ⟨waiting, before ++ after, ended ++ [a]⟩

/-- All jobs of a pool. -/
def jobs (p : Pool α) : List α := p.waiting ++ (p.running ++ p.ended)

/-- A step loses no job and makes none. -/
theorem Step.jobs_perm (h : Step limit p q) : q.jobs.Perm p.jobs := by
  cases h with
  | @start a waiting running ended free =>
    show (waiting ++ (running ++ [a] ++ ended)).Perm (a :: (waiting ++ (running ++ ended)))
    rw [List.append_assoc, List.singleton_append, ← List.append_assoc, ← List.append_assoc]
    exact List.perm_middle
  | @finish a waiting before after ended =>
    show (waiting ++ (before ++ after ++ (ended ++ [a]))).Perm
      (waiting ++ (before ++ a :: after ++ ended))
    refine List.Perm.append_left waiting ?_
    rw [List.append_assoc, List.append_assoc, List.cons_append]
    refine List.Perm.append_left before ?_
    rw [← List.append_assoc]
    exact List.perm_append_singleton a (after ++ ended)

/-- A step keeps the limit. -/
theorem Step.within (h : Step limit p q) (hp : p.running.length ≤ limit) :
    q.running.length ≤ limit := by
  cases h with
  | @start a waiting running ended free =>
    show (running ++ [a]).length ≤ limit
    rw [List.length_append, List.length_singleton]
    exact free
  | @finish a waiting before after ended =>
    have hlength : (before ++ a :: after).length ≤ limit := hp
    rw [List.length_append, List.length_cons] at hlength
    show (before ++ after).length ≤ limit
    rw [List.length_append]
    omega

/-! ## §2. Runs. -/

/-- What a pool may come to. -/
abbrev Reaches (limit : Nat) : Pool α → Pool α → Prop := Relation.ReflTransGen (Step limit)

theorem Reaches.jobs_perm (h : Reaches limit p q) : q.jobs.Perm p.jobs := by
  induction h with
  | refl => exact List.Perm.refl _
  | tail _ hstep ih => exact hstep.jobs_perm.trans ih

/-- **At no time do more jobs run than the limit allows.** -/
theorem Reaches.within (h : Reaches limit p q) (hp : p.running.length ≤ limit) :
    q.running.length ≤ limit := by
  induction h with
  | refl => exact hp
  | tail _ hstep ih => exact hstep.within ih

/-- **Jobs may end in an order:** a pool in which all of them wait comes to one in which all of
them have ended so. -/
def Completes (limit : Nat) (jobs order : List α) : Prop :=
  Reaches limit ⟨jobs, [], []⟩ ⟨[], [], order⟩

/-- **Every job ends, and ends once.** -/
theorem Completes.perm {jobs order : List α} (h : Completes limit jobs order) :
    order.Perm jobs := by
  have hjobs := Reaches.jobs_perm h
  rwa [show Pool.jobs ⟨jobs, [], []⟩ = jobs from List.append_nil jobs] at hjobs

/-! ## §3. Orders there are. -/

/-- Jobs that run may end in any order. -/
theorem reaches_ended (waiting : List α) {running order : List α} (h : order.Perm running)
    (ended : List α) :
    Reaches limit ⟨waiting, running, ended⟩ ⟨waiting, [], ended ++ order⟩ := by
  induction order generalizing running ended with
  | nil =>
    rw [List.nil_perm.mp h, List.append_nil]
  | cons a rest ih =>
    -- the job that ends first is somewhere among those that run
    obtain ⟨before, after, rfl⟩ := List.append_of_mem (h.mem_iff.mp List.mem_cons_self)
    have hrest : rest.Perm (before ++ after) := (h.trans List.perm_middle).cons_inv
    have hmore := ih hrest (ended ++ [a])
    rw [List.append_assoc, List.singleton_append] at hmore
    exact Relation.ReflTransGen.head .finish hmore

/-- Jobs are taken up while the limit allows it. -/
theorem reaches_running (jobs running ended : List α)
    (hlimit : running.length + jobs.length ≤ limit) :
    Reaches limit ⟨jobs, running, ended⟩ ⟨[], running ++ jobs, ended⟩ := by
  induction jobs generalizing running with
  | nil => rw [List.append_nil]
  | cons a rest ih =>
    rw [List.length_cons] at hlimit
    have hmore := ih (running ++ [a]) (by
      rw [List.length_append, List.length_singleton]
      omega)
    rw [List.append_assoc, List.singleton_append] at hmore
    exact Relation.ReflTransGen.head (.start (by omega)) hmore

/-- **If all jobs may run at a time, they end in any order.** -/
theorem completes_of_perm {jobs order : List α} (hlimit : jobs.length ≤ limit)
    (h : order.Perm jobs) : Completes limit jobs order :=
  (reaches_running jobs [] [] (by rwa [List.length_nil, Nat.zero_add])).trans
    (reaches_ended [] h [])

/-- **A pool that may run one job is never stuck:** it can always come to an end. -/
theorem exists_completion (hlimit : 0 < limit) (p : Pool α) :
    ∃ order, Reaches limit p ⟨[], [], p.ended ++ order⟩ ∧ order.Perm (p.running ++ p.waiting) := by
  obtain ⟨waiting, running, ended⟩ := p
  show ∃ order, Reaches limit _ ⟨[], [], ended ++ order⟩ ∧ order.Perm (running ++ waiting)
  -- first all that run end, and then one job is taken up after another
  induction waiting generalizing running ended with
  | nil =>
    refine ⟨running, reaches_ended [] (List.Perm.refl _) ended, ?_⟩
    rw [List.append_nil]
  | cons a rest ih =>
    obtain ⟨order, hreaches, horder⟩ := ih [a] (ended ++ running)
    refine ⟨running ++ order, ?_, List.Perm.append_left running horder⟩
    rw [← List.append_assoc]
    exact (reaches_ended (a :: rest) (List.Perm.refl _) ended).trans
      (Relation.ReflTransGen.head (.start hlimit) hreaches)

/-- **The order of the jobs is one in which they may end.** -/
theorem completes_in_order (hlimit : 0 < limit) (jobs : List α) : Completes limit jobs jobs := by
  have hone : ∀ ended rest : List α, Reaches limit ⟨rest, [], ended⟩ ⟨[], [], ended ++ rest⟩ := by
    intro ended rest
    induction rest generalizing ended with
    | nil => rw [List.append_nil]
    | cons a rest ih =>
      have hmore := ih (ended ++ [a])
      rw [List.append_assoc, List.singleton_append] at hmore
      exact (Relation.ReflTransGen.single (.start hlimit)).trans
        ((reaches_ended rest (List.Perm.refl [a]) ended).trans hmore)
  exact hone [] jobs

end Pool

end SuiteRunner

import SuiteRunner.Proofs.Variables.Operations

/-!
  SuiteRunner.Proofs.Variables.Shadowing
  ────────────────────────────────
  **WHEN A LOCAL VARIABLE HIDES A GLOBAL ONE.**

  Several stores may be open over one registry; each has a memory of its own.  `Sharing` is the
  state of them all, and a run is any list of operations, each through one of the stores.

  Memory comes before the registry.  So a local variable that is in the memory of a store hides
  the global one of its name from then on, whatever is read or written through any store; a local
  variable that is only a row of the registry does so exactly as long as no global variable of its
  name is in memory.  `local_before_global` says both, and `persisted_local_hidden` shows that the
  second is no more than can be had: the look-up of one owner brings a global variable into memory,
  and another owner's local row is not seen any more.
-/

namespace SuiteRunner

open Registry

/-! ## §1. Stores that share a registry. -/

/-- What a store keeps in memory. -/
structure Memory where
  globals : List (String × String) := []
  locals : List ((Owner × String) × String) := []
  deriving DecidableEq, Repr

/-- One registry and the memories of the stores over it; a store that was never used is fresh. -/
structure Sharing where
  registry : Registry
  memory : Nat → Memory

/-- One operation, through one of the stores and at some time. -/
structure SharedStep where
  store : Nat
  now : Int := 0
  op : StoreOp
  deriving DecidableEq, Repr

namespace Sharing

/-- A registry over which no store was used yet. -/
def opened (r : Registry) : Sharing := ⟨r, fun _ => {}⟩

/-- One of the stores. -/
def store (w : Sharing) (i : Nat) (now : Int) : Store :=
  ⟨(w.memory i).globals, (w.memory i).locals, some w.registry, now⟩

/-- The state after a store changed. -/
def put (w : Sharing) (i : Nat) (s : Store) : Sharing :=
  { registry := s.registry.getD w.registry
    memory := fun j => if j = i then ⟨s.globals, s.locals⟩ else w.memory j }

/-- The state after one operation. -/
def step (w : Sharing) (st : SharedStep) : Sharing :=
  w.put st.store (st.op.apply (w.store st.store st.now))

/-- The state after operations in order. -/
def run (w : Sharing) (steps : List SharedStep) : Sharing := steps.foldl step w

/-- What an owner's name stands for in one of the stores. -/
def read (w : Sharing) (i : Nat) (now : Int) (o : Owner) (n : String) : Option String :=
  ((w.store i now).get o n).1

/-- The local variable in the memory of a store. -/
def localInMemory (w : Sharing) (i : Nat) (o : Owner) (n : String) : Option String :=
  Assoc.get? (o, n) (w.memory i).locals

/-- The global variable in the memory of a store. -/
def globalInMemory (w : Sharing) (i : Nat) (n : String) : Option String :=
  Assoc.get? n (w.memory i).globals

/-- The local variable in the registry. -/
def localInRegistry (w : Sharing) (o : Owner) (n : String) : Option String :=
  w.registry.valueAt (localKey o n)

end Sharing

/-- A step through a store takes the local variable away or gives it a new value. -/
def SharedStep.Replaces (i : Nat) (o : Owner) (n : String) (st : SharedStep) : Prop :=
  st.store = i ∧ st.op.Replaces o n

/-- A step through a store sets a name globally or looks it up. -/
def SharedStep.Mentions (i : Nat) (n : String) (st : SharedStep) : Prop :=
  st.store = i ∧ st.op.Mentions n

instance (i : Nat) (o : Owner) (n : String) (st : SharedStep) : Decidable (st.Replaces i o n) :=
  inferInstanceAs (Decidable (_ ∧ _))

instance (i : Nat) (n : String) (st : SharedStep) : Decidable (st.Mentions i n) :=
  inferInstanceAs (Decidable (_ ∧ _))

/-- A value that an owner's local variable had at first, or was given in one of the steps. -/
def LocalValue (r : Registry) (steps : List SharedStep) (o : Owner) (n v : String) : Prop :=
  r.valueAt (localKey o n) = some v ∨ ∃ st ∈ steps, st.op = .setLocal o n v

/-! ## §2. One operation on one store. -/

namespace Store

variable {s : Store} {o o' : Owner} {n m v : String}

/-- A local variable in memory survives every look-up. -/
theorem getLocal_get (h : s.getLocal o n = some v) : (s.get o' m).2.getLocal o n = some v := by
  obtain ⟨w, -, hget⟩ | ⟨hm, r, w, -, -, hget⟩ | ⟨-, r, w, -, -, -, hget⟩ | ⟨-, -, hget⟩ :=
    get_cases s o' m
  · rw [hget]
    exact h
  · rw [hget]
    show Assoc.get? (o, n) (Assoc.insert (o', m) w s.locals) = some v
    have hne : ¬ (o, n) = (o', m) := by
      intro he
      obtain ⟨rfl, rfl⟩ := Prod.mk.inj he
      rw [(inMemory_eq_none_iff.mp hm).1] at h
      cases h
    rw [Assoc.get?_insert, if_neg hne]
    exact h
  · rw [hget]
    exact h
  · rw [hget]
    exact h

/-- **A local variable in memory survives every operation that does not replace it.** -/
theorem getLocal_apply {op : StoreOp} (h : s.getLocal o n = some v) (hop : ¬ op.Replaces o n) :
    (op.apply s).getLocal o n = some v := by
  cases op with
  | setGlobal name value =>
    show (s.setGlobal name value).getLocal o n = some v
    rw [setGlobal_eq]
    exact h
  | setLocal o' name value =>
    show (s.setLocal o' name value).getLocal o n = some v
    rw [setLocal_eq]
    show Assoc.get? (o, n) (Assoc.insert (o', name) value s.locals) = some v
    have hne : ¬ (o, n) = (o', name) := by
      intro he
      obtain ⟨rfl, rfl⟩ := Prod.mk.inj he
      exact hop ⟨rfl, rfl⟩
    rw [Assoc.get?_insert, if_neg hne]
    exact h
  | get o' name => exact getLocal_get h
  | inject o' text =>
    exact inject_keeps (P := fun s => s.getLocal o n = some v) s h fun s name _ hs => getLocal_get hs
  | clearGlobal => exact h
  | cleanupLocals => exact absurd trivial hop

/-- No look-up of another name brings a global variable into memory. -/
theorem getGlobal_get (h : s.getGlobal n = none) (hne : m ≠ n) :
    (s.get o m).2.getGlobal n = none := by
  obtain ⟨w, -, hget⟩ | ⟨-, r, w, -, -, hget⟩ | ⟨-, r, w, -, -, -, hget⟩ | ⟨-, -, hget⟩ :=
    get_cases s o m <;> rw [hget]
  · exact h
  · exact h
  · show Assoc.get? n (Assoc.insert m w s.globals) = none
    rw [Assoc.get?_insert, if_neg (Ne.symm hne)]
    exact h
  · exact h

/-- **A name that an operation does not mention does not become a global variable in memory.** -/
theorem getGlobal_apply {op : StoreOp} (h : s.getGlobal n = none) (hop : ¬ op.Mentions n) :
    (op.apply s).getGlobal n = none := by
  cases op with
  | setGlobal name value =>
    show (s.setGlobal name value).getGlobal n = none
    rw [setGlobal_eq]
    show Assoc.get? n (Assoc.insert name value s.globals) = none
    rw [Assoc.get?_insert, if_neg fun he => hop he.symm]
    exact h
  | setLocal o' name value =>
    show (s.setLocal o' name value).getGlobal n = none
    rw [setLocal_eq]
    exact h
  | get o' name => exact getGlobal_get h hop
  | inject o' text =>
    refine inject_keeps (P := fun s => s.getGlobal n = none) s h ?_
    intro s name hname hs
    refine getGlobal_get hs ?_
    rintro rfl
    exact hop hname
  | clearGlobal => rfl
  | cleanupLocals => exact h

/-- The local values of a store, in memory and in the registry, have a property. -/
def LocalsSatisfy (P : Owner → String → String → Prop) (s : Store) : Prop :=
  (∀ o n v, s.getLocal o n = some v → P o n v) ∧
    ∀ r, s.registry = some r → ∀ o n v, r.valueAt (localKey o n) = some v → P o n v

theorem localsSatisfy_get {P : Owner → String → String → Prop} (h : LocalsSatisfy P s) :
    LocalsSatisfy P (s.get o m).2 := by
  refine ⟨?_, by rw [get_registry]; exact h.2⟩
  obtain ⟨w, -, hget⟩ | ⟨-, r, w, hr, hw, hget⟩ | ⟨-, r, w, -, -, -, hget⟩ | ⟨-, -, hget⟩ :=
    get_cases s o m <;> rw [hget]
  · exact h.1
  · -- the local row that was found becomes a local variable in memory
    intro o' n' v' hv
    obtain ⟨hkey, rfl⟩ | hbefore := Assoc.of_get?_insert hv
    · obtain ⟨rfl, rfl⟩ := Prod.mk.inj hkey
      exact h.2 r hr o' n' w hw
    · exact h.1 o' n' v' hbefore
  · exact h.1
  · exact h.1

/-- **No operation turns a global value into a local one:** what holds of the local values and of
those that are set locally goes on to hold of the local values. -/
theorem localsSatisfy_apply {P : Owner → String → String → Prop} {op : StoreOp}
    (h : LocalsSatisfy P s) (hset : ∀ o n v, op = .setLocal o n v → P o n v) :
    LocalsSatisfy P (op.apply s) := by
  -- in memory and in the registry apart; only setting a local variable adds a value
  cases op with
  | setGlobal name value =>
    show LocalsSatisfy P (s.setGlobal name value)
    rw [setGlobal_eq]
    refine ⟨h.1, ?_⟩
    intro r hr o' n' v' hv
    obtain ⟨r₀, hr₀, rfl⟩ := Option.map_eq_some_iff.mp hr
    rw [valueAt_put, if_neg (localKey_ne_globalKey o' n' name)] at hv
    exact h.2 r₀ hr₀ o' n' v' hv
  | setLocal o₁ name value =>
    show LocalsSatisfy P (s.setLocal o₁ name value)
    rw [setLocal_eq]
    constructor
    · intro o' n' v' hv
      obtain ⟨hkey, rfl⟩ | hbefore := Assoc.of_get?_insert hv
      · obtain ⟨rfl, rfl⟩ := Prod.mk.inj hkey
        exact hset o' n' value rfl
      · exact h.1 o' n' v' hbefore
    · intro r hr o' n' v' hv
      obtain ⟨r₀, hr₀, rfl⟩ := Option.map_eq_some_iff.mp hr
      -- an owner without ids has no rows
      by_cases hfull : (o₁.suite.isEmpty || o₁.testCase.isEmpty) = true
      · rw [if_pos hfull] at hv
        exact h.2 r₀ hr₀ o' n' v' hv
      · rw [if_neg hfull] at hv
        obtain ⟨hkey, rfl⟩ | hbefore := of_valueAt_put hv
        · obtain ⟨rfl, rfl⟩ := localKey_inj.mp hkey
          exact hset o' n' value rfl
        · exact h.2 r₀ hr₀ o' n' v' hbefore
  | get o' name => exact localsSatisfy_get h
  | inject o' text => exact inject_keeps s h fun s name _ hs => localsSatisfy_get hs
  | clearGlobal =>
    refine ⟨h.1, ?_⟩
    intro r hr o' n' v' hv
    obtain ⟨r₀, hr₀, rfl⟩ := Option.map_eq_some_iff.mp hr
    rw [valueAt_clearGlobal] at hv
    exact h.2 r₀ hr₀ o' n' v' hv
  -- nothing is left of which anything had to be true
  | cleanupLocals =>
    constructor
    · intro o' n' v' hv
      cases hv
    · intro r hr o' n' v' hv
      obtain ⟨r₀, hr₀, rfl⟩ := Option.map_eq_some_iff.mp hr
      rw [valueAt_deleteAllLocal] at hv
      cases hv

end Store

/-! ## §3. Runs through any number of stores. -/

namespace Sharing

theorem run_cons (w : Sharing) (st : SharedStep) (steps : List SharedStep) :
    w.run (st :: steps) = (w.step st).run steps := rfl

/-- The registry stays where it is: an operation changes its rows and does not close it. -/
theorem apply_registry (w : Sharing) (st : SharedStep) :
    (st.op.apply (w.store st.store st.now)).registry = some (w.step st).registry := by
  -- it is enough that a registry is left; it is then the one that the step leaves
  suffices h : ∃ r, (st.op.apply (w.store st.store st.now)).registry = some r by
    obtain ⟨r, hr⟩ := h
    rw [hr]
    show some r = some ((st.op.apply (w.store st.store st.now)).registry.getD w.registry)
    rw [hr]
    rfl
  generalize hs : w.store st.store st.now = s
  have hr : ∃ r, s.registry = some r := ⟨w.registry, by rw [← hs]; rfl⟩
  obtain ⟨r, hr⟩ := hr
  cases st.op with
  | setGlobal name value =>
    show ∃ r, (s.setGlobal name value).registry = some r
    rw [Store.setGlobal_eq, hr]
    exact ⟨_, rfl⟩
  | setLocal o name value =>
    show ∃ r, (s.setLocal o name value).registry = some r
    rw [Store.setLocal_eq, hr]
    exact ⟨_, rfl⟩
  | get o name =>
    show ∃ r, (s.get o name).2.registry = some r
    rw [Store.get_registry]
    exact ⟨r, hr⟩
  | inject o text =>
    refine ⟨r, Store.inject_keeps (P := fun s => s.registry = some r) s hr ?_⟩
    intro s name _ hs
    rw [Store.get_registry]
    exact hs
  | clearGlobal =>
    show ∃ r', (s.registry.map fun r => r.clearGlobal.2) = some r'
    rw [hr]
    exact ⟨_, rfl⟩
  | cleanupLocals =>
    show ∃ r', (s.registry.map fun r => r.deleteAllLocal.2) = some r'
    rw [hr]
    exact ⟨_, rfl⟩

theorem memory_step (w : Sharing) (st : SharedStep) (j : Nat) :
    (w.step st).memory j =
      if j = st.store then
        ⟨(st.op.apply (w.store st.store st.now)).globals,
          (st.op.apply (w.store st.store st.now)).locals⟩
      else w.memory j := rfl

variable {w : Sharing} {i : Nat} {o : Owner} {n v : String}

/-- **What the steps through a store keep of its memory, every run keeps:** steps through other
stores do not touch it. -/
theorem memory_run {P : Memory → Prop} {steps : List SharedStep} (h : P (w.memory i))
    (hsteps : ∀ st ∈ steps, st.store = i → ∀ s : Store, P ⟨s.globals, s.locals⟩ →
      P ⟨(st.op.apply s).globals, (st.op.apply s).locals⟩) :
    P ((w.run steps).memory i) := by
  induction steps generalizing w with
  | nil => exact h
  | cons st rest ih =>
    rw [run_cons]
    refine ih ?_ fun st' hst' => hsteps st' (List.mem_cons_of_mem _ hst')
    rw [memory_step]
    by_cases hi : i = st.store
    · rw [if_pos hi]
      refine hsteps st List.mem_cons_self hi.symm (w.store st.store st.now) ?_
      rw [← hi]
      exact h
    · rw [if_neg hi]
      exact h

/-- **A local variable in memory survives every run that does not replace it.** -/
theorem localInMemory_run {steps : List SharedStep} (h : w.localInMemory i o n = some v)
    (hsteps : ∀ st ∈ steps, ¬ st.Replaces i o n) :
    (w.run steps).localInMemory i o n = some v := by
  refine memory_run (P := fun m => Assoc.get? (o, n) m.locals = some v) h ?_
  intro st hst hi s hs
  exact Store.getLocal_apply hs fun hr => hsteps st hst ⟨hi, hr⟩

/-- A name that no step through a store mentions is no global variable in its memory. -/
theorem globalInMemory_run {steps : List SharedStep} (h : w.globalInMemory i n = none)
    (hsteps : ∀ st ∈ steps, ¬ st.Mentions i n) :
    (w.run steps).globalInMemory i n = none := by
  refine memory_run (P := fun m => Assoc.get? n m.globals = none) h ?_
  intro st hst hi s hs
  exact Store.getGlobal_apply hs fun hm => hsteps st hst ⟨hi, hm⟩

/-- The local values of all stores and of the registry have a property. -/
def LocalsSatisfy (P : Owner → String → String → Prop) (w : Sharing) : Prop :=
  ∀ i now, Store.LocalsSatisfy P (w.store i now)

/-- What holds of the local values at first and of all that are set locally holds of the local
values after every run. -/
theorem localsSatisfy_run {P : Owner → String → String → Prop} {steps : List SharedStep}
    (h : LocalsSatisfy P w)
    (hset : ∀ st ∈ steps, ∀ o n v, st.op = .setLocal o n v → P o n v) :
    LocalsSatisfy P (w.run steps) := by
  induction steps generalizing w with
  | nil => exact h
  | cons st rest ih =>
    rw [run_cons]
    refine ih ?_ fun st' hst' => hset st' (List.mem_cons_of_mem _ hst')
    have happly := Store.localsSatisfy_apply (h st.store st.now) (hset st List.mem_cons_self)
    intro j now
    -- the memory of the store that moved, those of the others, and the registry of all
    constructor
    · show ∀ o n v, Assoc.get? (o, n) ((w.step st).memory j).locals = some v → P o n v
      rw [memory_step]
      by_cases hj : j = st.store
      · rw [if_pos hj]
        exact happly.1
      · rw [if_neg hj]
        exact (h j now).1
    · intro r hr
      refine happly.2 r ?_
      rw [apply_registry]
      exact hr

/-- Every local value goes back to a local row or to a local write. -/
theorem localValue_run (r : Registry) (steps : List SharedStep) :
    LocalsSatisfy (LocalValue r steps) ((opened r).run steps) := by
  apply localsSatisfy_run
  · intro i now
    constructor
    · intro o n v h
      cases h
    · intro r' hr o n v h
      cases hr
      exact .inl h
  · intro st hst o n v hop
    exact .inr ⟨st, hst, hop⟩

/-! ## §4. What a look-up gives. -/

/-- A local variable in memory is what its name stands for. -/
theorem read_of_localInMemory (now : Int) (h : w.localInMemory i o n = some v) :
    w.read i now o n = some v := by
  unfold read Store.get
  have hm : (w.store i now).inMemory o n = some v := by
    rw [Store.inMemory_eq]
    show (w.localInMemory i o n).orElse _ = some v
    rw [h]
    rfl
  rw [hm]

/-- **A local variable that is only in the registry** is what its name stands for, unless there is
a global variable of the name in memory. -/
theorem read_of_localInRegistry (now : Int) (hmem : w.localInMemory i o n = none)
    (hreg : w.localInRegistry o n = some v) :
    w.read i now o n = some ((w.globalInMemory i n).getD v) := by
  have hl : (w.store i now).getLocal o n = none := hmem
  unfold read
  -- memory is asked before the registry, so a global variable in it wins over the local row
  cases hg : w.globalInMemory i n with
  | some g =>
    have hm : (w.store i now).inMemory o n = some g := by
      rw [Store.inMemory_eq, hl]
      exact hg
    unfold Store.get
    rw [hm]
    rfl
  | none =>
    have hm : (w.store i now).inMemory o n = none := Store.inMemory_eq_none_iff.mpr ⟨hl, hg⟩
    obtain ⟨u, hu, -⟩ | ⟨-, r, u, hr, hu, hget⟩ | ⟨-, r, u, hr, hu, -, -⟩ | ⟨-, hnone, -⟩ :=
      Store.get_cases (w.store i now) o n
    · rw [hm] at hu
      cases hu
    · cases hr
      rw [hget]
      exact hu.symm.trans hreg
    · cases hr
      exact absurd (hu.symm.trans hreg) (by simp)
    · exact absurd ((hnone w.registry rfl).1.symm.trans hreg) (by simp)

/-- **LOCAL BEFORE GLOBAL.**  Over any registry and after any steps through any stores:

    • a local variable in the memory of a store is what its name stands for there, now and after
      any further steps of which none sets this variable or sweeps the local ones away;
    • a local variable that is only a row of the registry is what its name stands for unless the
      memory of the store has a global variable of that name, which it has not as long as no step
      through the store set the name globally or looked it up.

Either way the value is one that the owner's variable had at first or was given locally. -/
theorem local_before_global (r : Registry) (steps : List SharedStep) (i : Nat) (now : Int)
    (o : Owner) (n v : String) :
    let w := (opened r).run steps
    (w.localInMemory i o n = some v →
      LocalValue r steps o n v ∧
      ∀ more : List SharedStep, (∀ st ∈ more, ¬ st.Replaces i o n) →
        (w.run more).read i now o n = some v) ∧
    (w.localInMemory i o n = none → w.localInRegistry o n = some v →
      LocalValue r steps o n v ∧
      w.read i now o n = some ((w.globalInMemory i n).getD v) ∧
      ((∀ st ∈ steps, ¬ st.Mentions i n) → w.read i now o n = some v)) := by
  intro w
  -- whatever is local anywhere was set for its owner, or was a row at first
  have hvalues := localValue_run r steps i now
  constructor
  · intro hmem
    refine ⟨hvalues.1 o n v hmem, ?_⟩
    intro more hmore
    exact read_of_localInMemory now (localInMemory_run hmem hmore)
  · intro hmem hreg
    refine ⟨hvalues.2 _ rfl o n v hreg, read_of_localInRegistry now hmem hreg, ?_⟩
    intro hsteps
    -- nobody spoke of the name, so no global value of it was brought into memory
    have hglobal : w.globalInMemory i n = none := globalInMemory_run rfl hsteps
    rw [read_of_localInRegistry now hmem hreg, hglobal]
    rfl

/-- One store writes a local and a global variable of the same name; a second store, over the same
registry, finds the local one.  In the first store it stays, although another owner looks the name
up and the global variable is set again. -/
theorem local_found_by_two_stores :
    let o : Owner := ⟨"s", "t"⟩
    let steps : List SharedStep := [⟨0, 0, .setLocal o "n" "l"⟩, ⟨0, 0, .setGlobal "n" "g"⟩]
    let more : List SharedStep := [⟨0, 0, .get ⟨"s", "u"⟩ "n"⟩, ⟨0, 0, .setGlobal "n" "h"⟩]
    (((opened .empty).run steps).run more).read 0 0 o "n" = some "l" ∧
      ((opened .empty).run steps).read 1 0 o "n" = some "l" := by
  intro o steps more
  have first := local_before_global .empty steps 0 0 o "n" "l"
  have second := local_before_global .empty steps 1 0 o "n" "l"
  exact ⟨(first.1 (by decide)).2 more (by decide),
    (second.2 (by decide) (by decide)).2.2 (by decide)⟩

/-- **A local variable of the registry can be hidden.**  The second store finds it at first.  After
another owner looked the name up there, or after the global variable was set there, the owner gets
the global value, and the local row is still in the registry. -/
theorem persisted_local_hidden :
    let o : Owner := ⟨"s", "t"⟩
    let steps : List SharedStep := [⟨0, 0, .setLocal o "n" "l"⟩, ⟨0, 0, .setGlobal "n" "g"⟩]
    let w := (opened .empty).run steps
    let looked := w.step ⟨1, 0, .get ⟨"s", "u"⟩ "n"⟩
    let written := w.step ⟨1, 0, .setGlobal "n" "h"⟩
    w.read 1 0 o "n" = some "l" ∧
      looked.localInRegistry o "n" = some "l" ∧ looked.read 1 0 o "n" = some "g" ∧
      written.localInRegistry o "n" = some "l" ∧ written.read 1 0 o "n" = some "h" := by
  decide

end Sharing

end SuiteRunner

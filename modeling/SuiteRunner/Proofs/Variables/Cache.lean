import Mathlib.Data.Set.Card
import SuiteRunner.Proofs.Variables.Operations

/-!
  SuiteRunner.Proofs.Variables.Cache
  ────────────────────────────────
  **THE MEMORY OF A STORE IS A CACHE OF ITS REGISTRY.**

  `VariableMaps` are variables as two plain maps, from global names and from names of owners to
  values.  A store that starts over a registry without local rows, and is the only one to write to
  it, always answers like these maps and like the registry itself.

  The invariant is `Agrees`: local variables are the same in memory, in the registry and in the
  maps, and global variables in memory are among those of the registry, which are those of the
  maps.  Every operation keeps it (`agrees_apply`), so every run does (`agrees_run`).  Sweeping the
  local variables counts them exactly, because memory and registry both hold each of them once.
-/

namespace SuiteRunner

open Registry

/-! ## §1. Variables as plain maps. -/

/-- Global variables by name, and local ones by owner and name. -/
structure VariableMaps where
  globals : String → Option String
  locals : Owner → String → Option String

namespace VariableMaps

/-- The variables of a registry. -/
def ofRegistry (r : Registry) : VariableMaps :=
  ⟨fun n => r.valueAt (globalKey n), fun o n => r.valueAt (localKey o n)⟩

/-- What a name stands for: the owner's local variable, else the global one. -/
def read (m : VariableMaps) (o : Owner) (n : String) : Option String :=
  (m.locals o n).orElse fun _ => m.globals n

/-- The owners and names that have a local variable. -/
def localNames (m : VariableMaps) : Set (Owner × String) := {p | m.locals p.1 p.2 ≠ none}

/-- The variables after an operation; looking up changes none. -/
def apply (m : VariableMaps) : StoreOp → VariableMaps
  | .setGlobal n v => { m with globals := fun j => if j = n then some v else m.globals j }
  | .setLocal o n v =>
    { m with locals := fun p j => if p = o ∧ j = n then some v else m.locals p j }
  | .get _ _ => m
  | .inject _ _ => m
  | .clearGlobal => { m with globals := fun _ => none }
  | .cleanupLocals => { m with locals := fun _ _ => none }

/-- The variables after operations in order, each made at some time. -/
def run (m : VariableMaps) (ops : List (Int × StoreOp)) : VariableMaps :=
  ops.foldl (fun m op => m.apply op.2) m

end VariableMaps

/-- An operation that sets a local variable names its owner in full. -/
def StoreOp.OwnerGiven : StoreOp → Prop
  | .setGlobal _ _ => True
  | .setLocal o _ _ => o.suite ≠ "" ∧ o.testCase ≠ ""
  | .get _ _ => True
  | .inject _ _ => True
  | .clearGlobal => True
  | .cleanupLocals => True

/-- The store after operations in order, each made at some time. -/
def Store.run (s : Store) (ops : List (Int × StoreOp)) : Store :=
  ops.foldl (fun s op => op.2.apply { s with clock := op.1 }) s

/-! ## §2. The local rows of a registry. -/

namespace Registry

/-- Whether an address is one of a local variable. -/
def isLocal (k : RowKey) : Bool := k.scope == .perCase

/-- The owners and names of the local rows, one for each row. -/
def localNames (r : Registry) : List (Owner × String) :=
  (r.keys.filter isLocal).map fun k => (⟨k.suite, k.testCase⟩, k.name)

theorem key_eq_localKey {k : RowKey} (h : isLocal k = true) :
    k = localKey ⟨k.suite, k.testCase⟩ k.name := by
  obtain ⟨scope, suite, testCase, name⟩ := k
  have hscope : scope = .perCase := eq_of_beq h
  rw [hscope]
  rfl

theorem mem_localNames {r : Registry} {p : Owner × String} :
    p ∈ r.localNames ↔ r.valueAt (localKey p.1 p.2) ≠ none := by
  rw [Ne, valueAt_eq_none_iff, Decidable.not_not]
  unfold localNames
  rw [List.mem_map]
  constructor
  · rintro ⟨k, hk, rfl⟩
    obtain ⟨hmem, hlocal⟩ := List.mem_filter.mp hk
    show localKey ⟨k.suite, k.testCase⟩ k.name ∈ r.keys
    rw [← key_eq_localKey hlocal]
    exact hmem
  · intro h
    exact ⟨localKey p.1 p.2, List.mem_filter.mpr ⟨h, rfl⟩, rfl⟩

theorem deleteAllLocal_count (r : Registry) : r.deleteAllLocal.1 = r.localNames.length := by
  unfold localNames keys
  rw [List.length_map, List.filter_map, List.length_map, ← List.countP_eq_length_filter]
  rfl

theorem nodup_localNames {r : Registry} (h : (r.keys.filter isLocal).Nodup) :
    r.localNames.Nodup := by
  apply List.Nodup.map_on _ h
  intro j hj k hk he
  have hjl := (List.mem_filter.mp hj).2
  have hkl := (List.mem_filter.mp hk).2
  obtain ⟨howner, hname⟩ := Prod.mk.inj he
  rw [key_eq_localKey hjl, key_eq_localKey hkl, howner, hname]

/-- A write keeps local rows apart. -/
theorem nodup_put {r : Registry} (h : (r.keys.filter isLocal).Nodup) (k : RowKey) (v : String)
    (now : Int) : ((r.put k v now).keys.filter isLocal).Nodup := by
  rw [keys_put]
  by_cases hk : k ∈ r.keys
  · rw [if_pos hk]
    exact h
  · rw [if_neg hk, List.filter_append]
    apply List.Nodup.append h (List.Nodup.filter _ (List.nodup_singleton k))
    intro j hj hjk
    have hjk' : j = k := List.mem_singleton.mp (List.mem_filter.mp hjk).1
    rw [hjk'] at hj
    exact hk (List.mem_filter.mp hj).1

theorem nodup_removeIf {r : Registry} (h : (r.keys.filter isLocal).Nodup) (test : RowKey → Bool) :
    ((r.removeIf fun row => test row.key).2.keys.filter isLocal).Nodup := by
  rw [keys_removeIf, List.filter_filter]
  refine List.Nodup.sublist ?_ h
  apply List.monotone_filter_right
  intro k hk
  exact (Bool.and_eq_true_iff.mp hk).1

end Registry

/-! ## §3. The invariant. -/

/-- **A store, its registry and the plain maps hold the same variables,** and each local one only
once. -/
structure Agrees (m : VariableMaps) (r : Registry) (s : Store) : Prop where
  registry : s.registry = some r
  rowGlobal : ∀ n, r.valueAt (globalKey n) = m.globals n
  rowLocal : ∀ o n, r.valueAt (localKey o n) = m.locals o n
  rowsApart : (r.keys.filter isLocal).Nodup
  memoryLocal : ∀ o n, s.getLocal o n = m.locals o n
  memoryGlobal : ∀ n v, s.getGlobal n = some v → m.globals n = some v
  memoryApart : (s.locals.map Prod.fst).Nodup

section

variable {m : VariableMaps} {r : Registry} {s : Store}

/-- The time of a store is of no account. -/
theorem Agrees.at (h : Agrees m r s) (now : Int) : Agrees m r { s with clock := now } := ⟨h.registry,
  h.rowGlobal, h.rowLocal, h.rowsApart, h.memoryLocal, h.memoryGlobal, h.memoryApart⟩

/-- A registry without local rows and the fresh store over it. -/
theorem agrees_fresh (r : Registry) (h : ∀ row ∈ r.rows, row.key.scope = .global) :
    Agrees (.ofRegistry r) r (.ofRegistry (some r)) := by
  have hrows : r.keys.filter isLocal = [] := by
    rw [List.filter_eq_nil_iff]
    intro k hk
    obtain ⟨row, hrow, rfl⟩ := List.mem_map.mp hk
    unfold isLocal
    rw [h row hrow]
    decide
  refine ⟨rfl, fun _ => rfl, fun _ _ => rfl, ?_, ?_, ?_, ?_⟩
  · rw [hrows]
    exact List.nodup_nil
  · intro o n
    symm
    show r.valueAt (localKey o n) = none
    rw [valueAt_eq_none_iff]
    intro hmem
    have hk : localKey o n ∈ r.keys.filter isLocal := List.mem_filter.mpr ⟨hmem, rfl⟩
    rw [hrows] at hk
    cases hk
  · intro n v hv
    cases hv
  · exact List.nodup_nil

/-- **Under the invariant a look-up gives what the maps say.** -/
theorem Agrees.get_value (h : Agrees m r s) (o : Owner) (n : String) :
    (s.get o n).1 = m.read o n := by
  unfold VariableMaps.read
  -- where the value is found: in memory, in the local row, in the global row, nowhere
  obtain ⟨v, hm, hget⟩ | ⟨-, r', v, hr, hv, hget⟩ | ⟨-, r', v, hr, hl, hg, hget⟩ | ⟨-, hnone, hget⟩ :=
    Store.get_cases s o n
  · rw [hget]
    rw [Store.inMemory_eq, h.memoryLocal] at hm
    cases hlocal : m.locals o n with
    | some u =>
      rw [hlocal] at hm
      exact hm.symm
    -- a global in memory is that of the registry
    | none =>
      rw [hlocal] at hm
      exact (h.memoryGlobal n v hm).symm
  · rw [h.registry] at hr
    cases hr
    rw [hget, ← h.rowLocal, hv]
    rfl
  · rw [h.registry] at hr
    cases hr
    rw [hget, ← h.rowLocal, hl, ← h.rowGlobal, hg]
    rfl
  · obtain ⟨hl, hg⟩ := hnone r h.registry
    rw [hget, ← h.rowLocal, hl, ← h.rowGlobal, hg]
    rfl

/-- **A look-up keeps the invariant:** a local row is never news to memory, and a global one is
kept as it is in the registry. -/
theorem Agrees.get (h : Agrees m r s) (o : Owner) (n : String) : Agrees m r (s.get o n).2 := by
  obtain ⟨v, -, hget⟩ | ⟨hm, r', v, hr, hv, -⟩ | ⟨-, r', v, hr, -, hg, hget⟩ | ⟨-, -, hget⟩ :=
    Store.get_cases s o n
  · rw [hget]
    exact h
  · -- a local row that memory does not have: the two would not agree
    rw [h.registry] at hr
    cases hr
    have hlocal := (Store.inMemory_eq_none_iff.mp hm).1
    rw [h.memoryLocal, ← h.rowLocal, hv] at hlocal
    cases hlocal
  · -- a global row comes into memory, and the maps have it already
    rw [h.registry] at hr
    cases hr
    rw [hget]
    refine ⟨h.registry, h.rowGlobal, h.rowLocal, h.rowsApart, h.memoryLocal, ?_, h.memoryApart⟩
    intro j u hu
    obtain ⟨rfl, rfl⟩ | hbefore := Assoc.of_get?_insert hu
    · rw [← h.rowGlobal, hg]
    · exact h.memoryGlobal j u hbefore
  · rw [hget]
    exact h

/-- Setting a global variable. -/
theorem Agrees.setGlobal (h : Agrees m r s) (n v : String) :
    Agrees (m.apply (.setGlobal n v)) (r.put (globalKey n) v s.clock) (s.setGlobal n v) := by
  rw [Store.setGlobal_eq]
  refine ⟨by rw [h.registry]; rfl, ?_, ?_, nodup_put h.rowsApart _ _ _, h.memoryLocal, ?_,
    h.memoryApart⟩
  · intro j
    rw [valueAt_put, h.rowGlobal]
    simp only [globalKey_inj]
    rfl
  · intro o j
    rw [valueAt_put, if_neg (localKey_ne_globalKey o j n), h.rowLocal]
    rfl
  · intro j u hu
    have hins : Assoc.get? j (Assoc.insert n v s.globals) = some u := hu
    show (if j = n then some v else m.globals j) = some u
    rw [Assoc.get?_insert] at hins
    by_cases hj : j = n
    · rw [if_pos hj] at hins ⊢
      exact hins
    · rw [if_neg hj] at hins ⊢
      exact h.memoryGlobal j u hins

/-- Setting a local variable of an owner that is given in full. -/
theorem Agrees.setLocal (h : Agrees m r s) {o : Owner} (hs : o.suite ≠ "") (ht : o.testCase ≠ "")
    (n v : String) :
    Agrees (m.apply (.setLocal o n v)) (r.put (localKey o n) v s.clock) (s.setLocal o n v) := by
  have hfull : (o.suite.isEmpty || o.testCase.isEmpty) = false := by simp [hs, ht]
  rw [Store.setLocal_eq]
  refine ⟨?_, ?_, ?_, nodup_put h.rowsApart _ _ _, ?_, h.memoryGlobal, ?_⟩
  · -- the registry, its rows, memory, and that no key is twice in it
    rw [h.registry]
    show some (if _ then r else _) = some _
    rw [hfull]
    rfl
  · intro j
    rw [valueAt_put, if_neg (Ne.symm (localKey_ne_globalKey o n j)), h.rowGlobal]
    rfl
  · intro p j
    rw [valueAt_put, h.rowLocal]
    simp only [localKey_inj]
    rfl
  · intro p j
    show Assoc.get? (p, j) (Assoc.insert (o, n) v s.locals) = _
    rw [Assoc.get?_insert]
    simp only [Prod.mk.injEq]
    show (if p = o ∧ j = n then some v else s.getLocal p j) = _
    rw [h.memoryLocal]
    rfl
  · show ((Assoc.insert (o, n) v s.locals).map Prod.fst).Nodup
    rw [Assoc.keys_insert]
    by_cases hmem : (o, n) ∈ s.locals.map Prod.fst
    · rw [if_pos hmem]
      exact h.memoryApart
    · rw [if_neg hmem]
      apply List.Nodup.append h.memoryApart (List.nodup_singleton _)
      intro p hp hpo
      rw [List.mem_singleton.mp hpo] at hp
      exact hmem hp

/-- Forgetting all global variables. -/
theorem Agrees.clearGlobal (h : Agrees m r s) :
    Agrees (m.apply .clearGlobal) r.clearGlobal.2 s.clearGlobal := by
  refine ⟨?_, ?_, ?_, nodup_removeIf h.rowsApart fun k => k.scope == .global, h.memoryLocal, ?_,
    h.memoryApart⟩
  · show s.registry.map _ = _
    rw [h.registry]
    rfl
  · intro j
    rw [valueAt_clearGlobal]
    rfl
  · intro o j
    rw [valueAt_clearGlobal]
    exact h.rowLocal o j
  · intro j u hu
    cases hu

/-- Forgetting the local variables of all owners. -/
theorem Agrees.cleanupLocals (h : Agrees m r s) :
    Agrees (m.apply .cleanupLocals) r.deleteAllLocal.2 s.cleanupLocals.2 := by
  refine ⟨?_, ?_, ?_, nodup_removeIf h.rowsApart fun k => k.scope == .perCase, fun _ _ => rfl,
    h.memoryGlobal, List.nodup_nil⟩
  · show s.registry.map _ = _
    rw [h.registry]
    rfl
  · intro j
    rw [valueAt_deleteAllLocal]
    exact h.rowGlobal j
  · intro o j
    rw [valueAt_deleteAllLocal]
    rfl

/-- **Every operation keeps the invariant.** -/
theorem agrees_apply {op : StoreOp} (h : Agrees m r s) (hop : op.OwnerGiven) :
    ∃ r', Agrees (m.apply op) r' (op.apply s) := by
  cases op with
  | setGlobal n v => exact ⟨_, h.setGlobal n v⟩
  | setLocal o n v => exact ⟨_, h.setLocal hop.1 hop.2 n v⟩
  | get o n => exact ⟨r, h.get o n⟩
  | inject o text => exact ⟨r, Store.inject_keeps s h fun s n _ hs => hs.get o n⟩
  | clearGlobal => exact ⟨_, h.clearGlobal⟩
  | cleanupLocals => exact ⟨_, h.cleanupLocals⟩

/-- **Every run keeps the invariant.** -/
theorem agrees_run {ops : List (Int × StoreOp)} (h : Agrees m r s)
    (hops : ∀ op ∈ ops, op.2.OwnerGiven) : ∃ r', Agrees (m.run ops) r' (s.run ops) := by
  induction ops generalizing m r s with
  | nil => exact ⟨r, h⟩
  | cons op rest ih =>
    obtain ⟨r', h'⟩ := agrees_apply (h.at op.1) (hops op List.mem_cons_self)
    exact ih h' fun op' hop' => hops op' (List.mem_cons_of_mem _ hop')

/-! ## §4. Counting local variables. -/

/-- A list without repetition has as many items as the set of its items. -/
theorem ncard_of_nodup {α : Type} [DecidableEq α] {l : List α} {t : Set α} (hl : l.Nodup)
    (ht : ∀ a, a ∈ l ↔ a ∈ t) : t.ncard = l.length := by
  have hset : t = (l.toFinset : Set α) := by
    ext a
    rw [List.coe_toFinset, ← ht]
    rfl
  rw [hset, Set.ncard_coe_finset, List.toFinset_card_of_nodup hl]

theorem Agrees.length_locals (h : Agrees m r s) : m.localNames.ncard = s.locals.length := by
  rw [← List.length_map (f := Prod.fst)]
  apply ncard_of_nodup h.memoryApart
  intro p
  show p ∈ s.locals.map Prod.fst ↔ m.locals p.1 p.2 ≠ none
  rw [← h.memoryLocal, Ne]
  unfold Store.getLocal
  rw [Assoc.get?_eq_none_iff, Decidable.not_not]

theorem Agrees.length_localRows (h : Agrees m r s) :
    m.localNames.ncard = r.localNames.length := by
  apply ncard_of_nodup (nodup_localNames h.rowsApart)
  intro p
  rw [mem_localNames, h.rowLocal]
  rfl

/-- **Sweeping the local variables counts them:** memory and registry hold the same number. -/
theorem Agrees.cleanup_count (h : Agrees m r s) : s.cleanupLocals.1 = m.localNames.ncard := by
  unfold Store.cleanupLocals
  rw [h.registry]
  show max s.locals.length r.deleteAllLocal.1 = _
  rw [deleteAllLocal_count, ← h.length_locals, ← h.length_localRows, Nat.max_self]

end

/-! ## §5. The store over its registry. -/

/-- **A STORE ANSWERS LIKE ITS REGISTRY.**  Over a registry without local rows, after any
operations through one fresh store:

    • every name stands for what the registry itself finds for the owner at that moment, which is
      what the plain maps say after the same operations;
    • sweeping the local variables gives the number of those that there are. -/
theorem get_eq_lookup (r : Registry) (ops : List (Int × StoreOp))
    (hr : ∀ row ∈ r.rows, row.key.scope = .global) (hops : ∀ op ∈ ops, op.2.OwnerGiven) :
    let s := (Store.ofRegistry (some r)).run ops
    let m := (VariableMaps.ofRegistry r).run ops
    ∃ r', s.registry = some r' ∧
      (∀ o n, (s.get o n).1 = (r'.lookup n (some o.suite) (some o.testCase)).map Row.value ∧
        (s.get o n).1 = m.read o n) ∧
      (∀ o n, r'.valueAt (localKey o n) = m.locals o n) ∧
      s.cleanupLocals.1 = m.localNames.ncard := by
  intro s m
  obtain ⟨r', h⟩ := agrees_run (agrees_fresh r hr) hops
  refine ⟨r', h.registry, ?_, h.rowLocal, h.cleanup_count⟩
  intro o n
  rw [h.get_value, lookup_value, h.rowLocal, h.rowGlobal]
  exact ⟨rfl, rfl⟩

/-- A name is read as a global variable, then set twice by one owner, while another owner sets a
name of its own: each owner gets its own value, and there are two local variables to sweep. -/
theorem get_eq_lookup_two_owners :
    let r : Registry := ⟨[⟨1, globalKey "n", "g", 0, 0⟩], 2⟩
    let o : Owner := ⟨"s", "t"⟩
    let ops : List (Int × StoreOp) := [(1, .get o "n"), (2, .setLocal o "n" "k"),
      (3, .setLocal o "n" "l"), (4, .setLocal ⟨"s", "u"⟩ "m" "x"), (5, .inject o "\x7b\x7bm\x7d\x7d")]
    (∀ row ∈ r.rows, row.key.scope = .global) ∧ (∀ op ∈ ops, op.2.OwnerGiven) ∧
      (∃ r', ((Store.ofRegistry (some r)).run ops).registry = some r' ∧
        (r'.lookup "n" (some "s") (some "t")).map Row.value = some "l" ∧
        (r'.lookup "n" (some "s") (some "u")).map Row.value = some "g") ∧
      ((VariableMaps.ofRegistry r).run ops).localNames.ncard = 2 := by
  intro r o ops
  have hr : ∀ row ∈ r.rows, row.key.scope = .global := by decide
  have hops : ∀ op ∈ ops, op.2.OwnerGiven := by simp [ops, o, StoreOp.OwnerGiven]
  obtain ⟨r', hreg, hget, -, hcount⟩ := get_eq_lookup r ops hr hops
  refine ⟨hr, hops, ⟨r', hreg, ?_, ?_⟩, ?_⟩
  · exact (hget ⟨"s", "t"⟩ "n").1.symm
  · exact (hget ⟨"s", "u"⟩ "n").1.symm
  · exact hcount.symm

end SuiteRunner

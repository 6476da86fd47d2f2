import SuiteRunner.Proofs.Variables.Rows
import SuiteRunner.Variables.Store

/-!
  SuiteRunner.Proofs.Variables.Operations
  ────────────────────────────────
  **THE OPERATIONS OF A STORE, ONE BY ONE.**

  `StoreOp` lists what can be done with a store through the scopes of its owners.  For each
  operation there is one lemma that says all it does to the memory and to the registry; what
  follows about sequences of operations uses these lemmas and does not open the operations again:

    • `setGlobal_eq`, `setLocal_eq` — a write changes one key in memory and one address,
    • `get_cases` — a look-up is answered by memory, by a local row, by a global row or by nothing,
    • `inject_store` — filling placeholders is one look-up after another.
-/

namespace SuiteRunner

open Registry

/-! ## §1. Texts under keys. -/

namespace Assoc

variable {κ : Type} [DecidableEq κ]

/-- What was inserted under a key is found there, and all else as before. -/
theorem get?_insert (j k : κ) (v : String) (l : List (κ × String)) :
    get? j (insert k v l) = if j = k then some v else get? j l := by
  induction l with
  | nil =>
    show (if k = j then some v else none) = _
    by_cases h : j = k
    · rw [if_pos h, if_pos h.symm]
    · rw [if_neg h, if_neg (Ne.symm h)]
      rfl
  | cons p rest ih =>
    obtain ⟨i, w⟩ := p
    unfold insert
    by_cases hi : i = k
    · rw [if_pos hi]
      show (if k = j then some v else get? j rest) = if j = k then _ else if i = j then _ else _
      by_cases h : j = k
      · rw [if_pos h, if_pos h.symm]
      · rw [if_neg h, if_neg (Ne.symm h), if_neg (by rw [hi]; exact Ne.symm h)]
    · rw [if_neg hi]
      show (if i = j then some w else get? j (insert k v rest)) =
        if j = k then _ else if i = j then _ else _
      rw [ih]
      by_cases h : j = k
      · rw [if_pos h, if_pos h, if_neg (by rw [h]; exact hi)]
      · rw [if_neg h, if_neg h]

/-- A value after an insertion is the one inserted, or it was there before. -/
theorem of_get?_insert {j k : κ} {v u : String} {l : List (κ × String)}
    (h : get? j (insert k v l) = some u) : j = k ∧ v = u ∨ get? j l = some u := by
  rw [get?_insert] at h
  by_cases hj : j = k
  · rw [if_pos hj] at h
    exact .inl ⟨hj, Option.some.inj h⟩
  · rw [if_neg hj] at h
    exact .inr h

theorem get?_eq_none_iff {k : κ} {l : List (κ × String)} : get? k l = none ↔ k ∉ l.map Prod.fst := by
  induction l with
  | nil => simp [get?]
  | cons p rest ih =>
    obtain ⟨i, w⟩ := p
    show (if i = k then some w else get? k rest) = none ↔ _
    by_cases h : i = k
    · simp [h]
    · rw [if_neg h, ih]
      simp [Ne.symm h]

/-- A new key goes to the end, and one that is there keeps its place. -/
theorem keys_insert (k : κ) (v : String) (l : List (κ × String)) :
    (insert k v l).map Prod.fst =
      if k ∈ l.map Prod.fst then l.map Prod.fst else l.map Prod.fst ++ [k] := by
  induction l with
  | nil => rfl
  | cons p rest ih =>
    obtain ⟨i, w⟩ := p
    unfold insert
    by_cases hi : i = k
    · simp [hi]
    · rw [if_neg hi]
      show i :: (insert k v rest).map Prod.fst =
        if k ∈ i :: rest.map Prod.fst then i :: rest.map Prod.fst else i :: rest.map Prod.fst ++ [k]
      rw [ih]
      by_cases hk : k ∈ rest.map Prod.fst
      · rw [if_pos hk, if_pos (List.mem_cons_of_mem i hk)]
      · rw [if_neg hk, if_neg]
        · rfl
        · rw [List.mem_cons, not_or]
          exact ⟨Ne.symm hi, hk⟩

end Assoc

namespace Store

/-! ## §2. Writes. -/

/-- A global variable is written to memory and to its address. -/
theorem setGlobal_eq (s : Store) (n v : String) :
    s.setGlobal n v =
      { s with
        globals := Assoc.insert n v s.globals
        registry := s.registry.map fun r => r.put (globalKey n) v s.clock } := by
  obtain ⟨globals, locals, registry, clock⟩ := s
  cases registry <;> rfl

/-- A local variable is written to memory, and to its address if its owner is given in full. -/
theorem setLocal_eq (s : Store) (o : Owner) (n v : String) :
    s.setLocal o n v =
      { s with
        locals := Assoc.insert (o, n) v s.locals
        registry := s.registry.map fun r =>
          if o.suite.isEmpty || o.testCase.isEmpty then r
          else r.put (localKey o n) v s.clock } := by
  obtain ⟨globals, locals, registry, clock⟩ := s
  unfold setLocal persist
  cases registry with
  | none => rfl
  | some r =>
    simp only [set_local, Option.map_some]
    by_cases h : (o.suite.isEmpty || o.testCase.isEmpty) = true
    · simp only [h, if_true]
    · simp only [h]
      rfl

/-! ## §3. Look-ups. -/

/-- The value of a local variable in memory. -/
def getLocal (s : Store) (o : Owner) (n : String) : Option String := Assoc.get? (o, n) s.locals

/-- In memory the local variable goes before the global one. -/
theorem inMemory_eq (s : Store) (o : Owner) (n : String) :
    s.inMemory o n = (s.getLocal o n).orElse fun _ => s.getGlobal n := rfl

theorem inMemory_eq_none_iff {s : Store} {o : Owner} {n : String} :
    s.inMemory o n = none ↔ s.getLocal o n = none ∧ s.getGlobal n = none := by
  rw [inMemory_eq]
  cases s.getLocal o n <;> simp

theorem inRegistry_none {s : Store} (h : s.registry = none) (o : Owner) (n : String) :
    s.inRegistry o n = none := by
  unfold inRegistry
  rw [h]
  rfl

/-- **In a registry the local row goes before the global one.** -/
theorem inRegistry_some {s : Store} {r : Registry} (h : s.registry = some r) (o : Owner)
    (n : String) :
    s.inRegistry o n = (r.find? (localKey o n)).orElse fun _ => r.find? (globalKey n) := by
  unfold inRegistry
  rw [h]
  rfl

/-- **What a look-up can do:** memory answers and nothing changes, or a local row answers and is
kept as a local variable, or a global row answers and is kept as a global one, or the name stands
for nothing. -/
theorem get_cases (s : Store) (o : Owner) (n : String) :
    (∃ v, s.inMemory o n = some v ∧ s.get o n = (some v, s)) ∨
    (s.inMemory o n = none ∧ ∃ r v, s.registry = some r ∧ r.valueAt (localKey o n) = some v ∧
      s.get o n = (some v, { s with locals := Assoc.insert (o, n) v s.locals })) ∨
    (s.inMemory o n = none ∧ ∃ r v, s.registry = some r ∧ r.valueAt (localKey o n) = none ∧
      r.valueAt (globalKey n) = some v ∧
      s.get o n = (some v, { s with globals := Assoc.insert n v s.globals })) ∨
    (s.inMemory o n = none ∧ (∀ r, s.registry = some r →
      r.valueAt (localKey o n) = none ∧ r.valueAt (globalKey n) = none) ∧
      s.get o n = (none, s)) := by
  -- memory first, then the local row, then the global one
  unfold get
  cases hm : s.inMemory o n with
  | some v => exact .inl ⟨v, rfl, rfl⟩
  | none =>
    cases hr : s.registry with
    | none =>
      rw [inRegistry_none hr]
      refine .inr (.inr (.inr ⟨rfl, ?_, rfl⟩))
      intro r h
      cases h
    | some r =>
      rw [inRegistry_some hr]
      unfold valueAt
      cases hl : r.find? (localKey o n) with
      | some row =>
        refine .inr (.inl ⟨rfl, r, row.value, rfl, by rw [hl]; rfl, ?_⟩)
        show (some row.value, s.keep o n row) = _
        unfold keep
        rw [find?_key hl, ← hr]
        rfl
      | none =>
        cases hg : r.find? (globalKey n) with
        | some row =>
          refine .inr (.inr (.inl ⟨rfl, r, row.value, rfl, by rw [hl]; rfl, by rw [hg]; rfl, ?_⟩))
          show (some row.value, s.keep o n row) = _
          unfold keep
          rw [find?_key hg, ← hr]
          rfl
        | none =>
          refine .inr (.inr (.inr ⟨rfl, ?_, rfl⟩))
          intro r' h
          cases h
          rw [hl, hg]
          exact ⟨rfl, rfl⟩

/-- The registry is read, and never written, by a look-up. -/
theorem get_registry (s : Store) (o : Owner) (n : String) :
    (s.get o n).2.registry = s.registry := by
  obtain ⟨v, -, h⟩ | ⟨-, r, v, -, -, h⟩ | ⟨-, r, v, -, -, -, h⟩ | ⟨-, -, h⟩ := get_cases s o n <;>
    rw [h]

/-- The value at an address of the registry, if there is a registry. -/
def rowValue (s : Store) (k : RowKey) : Option String := s.registry.bind fun r => r.valueAt k

theorem rowValue_some {s : Store} {r : Registry} (h : s.registry = some r) (k : RowKey) :
    s.rowValue k = r.valueAt k := by
  unfold rowValue
  rw [h]
  rfl

/-- A look-up changes no row. -/
theorem rowValue_get (s : Store) (o : Owner) (n : String) (k : RowKey) :
    (s.get o n).2.rowValue k = s.rowValue k := by
  unfold rowValue
  rw [get_registry]

/-- The same of a look-up by the values at the two addresses that it may read. -/
theorem get_by_values (s : Store) (o : Owner) (n : String) :
    (∃ v, s.inMemory o n = some v ∧ s.get o n = (some v, s)) ∨
    (s.inMemory o n = none ∧ ∃ v, s.rowValue (localKey o n) = some v ∧
      s.get o n = (some v, { s with locals := Assoc.insert (o, n) v s.locals })) ∨
    (s.inMemory o n = none ∧ s.rowValue (localKey o n) = none ∧
      ∃ v, s.rowValue (globalKey n) = some v ∧
        s.get o n = (some v, { s with globals := Assoc.insert n v s.globals })) ∨
    (s.inMemory o n = none ∧ s.rowValue (localKey o n) = none ∧ s.rowValue (globalKey n) = none ∧
      s.get o n = (none, s)) := by
  obtain hm | ⟨hm, r, v, hr, hv, hget⟩ | ⟨hm, r, v, hr, hl, hv, hget⟩ | ⟨hm, hnone, hget⟩ :=
    get_cases s o n
  · exact .inl hm
  · exact .inr (.inl ⟨hm, v, (rowValue_some hr _).trans hv, hget⟩)
  · exact .inr (.inr (.inl
      ⟨hm, (rowValue_some hr _).trans hl, v, (rowValue_some hr _).trans hv, hget⟩))
  · have hrows : s.rowValue (localKey o n) = none ∧ s.rowValue (globalKey n) = none := by
      unfold rowValue
      cases hr : s.registry with
      | none => exact ⟨rfl, rfl⟩
      | some r => exact hnone r hr
    exact .inr (.inr (.inr ⟨hm, hrows.1, hrows.2, hget⟩))

/-- **The value that a look-up finds:** in memory, in the owner's row, or in the global row. -/
theorem get_value (s : Store) (o : Owner) (n : String) :
    (s.get o n).1
      = (s.inMemory o n).or ((s.rowValue (localKey o n)).or (s.rowValue (globalKey n))) := by
  obtain ⟨v, hm, hget⟩ | ⟨hm, v, hl, hget⟩ | ⟨hm, hl, v, hg, hget⟩ | ⟨hm, hl, hg, hget⟩ :=
    get_by_values s o n
  · rw [hget, hm]
    rfl
  · rw [hget, hm, hl]
    rfl
  · rw [hget, hm, hl, hg]
    rfl
  · rw [hget, hm, hl, hg]
    rfl

/-! ## §4. Placeholders. -/

/-- The names of the placeholders among pieces, in order. -/
def holes : List Template.Piece → List String
  | [] => []
  | .char _ :: rest => holes rest
  | .hole name :: rest => name :: holes rest

/-- The names of the placeholders of a text, in order. -/
def holesOf (text : String) : List String := holes (Template.pieces text)

/-- **To fill a text looks up the names of its placeholders,** from left to right. -/
theorem fill_store (o : Owner) (ps : List Template.Piece) (s : Store) :
    (fill o ps s).2 = (holes ps).foldl (fun s name => (s.get o name).2) s := by
  induction ps generalizing s with
  | nil => rfl
  | cons p rest ih =>
    cases p with
    | char c => exact ih s
    | hole name => exact ih (s.get o name).2

/-- **Filling a text is one look-up after another,** as far as the store is concerned. -/
theorem inject_store (s : Store) (o : Owner) (text : String) :
    (s.inject o text).2 = (holesOf text).foldl (fun s name => (s.get o name).2) s :=
  fill_store o (Template.pieces text) s

/-- What every look-up of a placeholder keeps is kept by filling the text. -/
theorem inject_keeps {P : Store → Prop} {o : Owner} {text : String} (s : Store) (hs : P s)
    (hget : ∀ s name, name ∈ holesOf text → P s → P (s.get o name).2) :
    P (s.inject o text).2 := by
  rw [inject_store]
  generalize holesOf text = names at hget
  induction names generalizing s with
  | nil => exact hs
  | cons name rest ih =>
    refine ih _ (hget s name List.mem_cons_self hs) ?_
    intro s m hm hp
    exact hget s m (List.mem_cons_of_mem _ hm) hp

end Store

/-! ## §5. Operations as data. -/

/-- What can be done with a store through the scope of an owner, or with the store itself. -/
inductive StoreOp where
  | setGlobal (name value : String)
  | setLocal (o : Owner) (name value : String)
  | get (o : Owner) (name : String)
  | inject (o : Owner) (text : String)
  | clearGlobal
  | cleanupLocals
  deriving DecidableEq, Repr

namespace StoreOp

/-- The store after an operation. -/
def apply (s : Store) : StoreOp → Store
  | .setGlobal name value => s.setGlobal name value
  | .setLocal o name value => s.setLocal o name value
  | .get o name => (s.get o name).2
  | .inject o text => (s.inject o text).2
  | .clearGlobal => s.clearGlobal
  | .cleanupLocals => s.cleanupLocals.2

/-- An operation speaks of a name in the global scope: it sets the global variable, or it looks
the name up and may find the global variable. -/
def Mentions (n : String) : StoreOp → Prop
  | .setGlobal name _ => name = n
  | .setLocal _ _ _ => False
  | .get _ name => name = n
  | .inject _ text => n ∈ Store.holesOf text
  | .clearGlobal => False
  | .cleanupLocals => False

instance (n : String) : (op : StoreOp) → Decidable (op.Mentions n)
  | .setGlobal name _ => inferInstanceAs (Decidable (name = n))
  | .setLocal _ _ _ => inferInstanceAs (Decidable False)
  | .get _ name => inferInstanceAs (Decidable (name = n))
  | .inject _ text => inferInstanceAs (Decidable (n ∈ Store.holesOf text))
  | .clearGlobal => inferInstanceAs (Decidable False)
  | .cleanupLocals => inferInstanceAs (Decidable False)

/-- An operation gives an owner's local variable a new value, or takes it away. -/
def Replaces (o : Owner) (n : String) : StoreOp → Prop
  | .setGlobal _ _ => False
  | .setLocal o' name _ => o' = o ∧ name = n
  | .get _ _ => False
  | .inject _ _ => False
  | .clearGlobal => False
  | .cleanupLocals => True

instance (o : Owner) (n : String) : (op : StoreOp) → Decidable (op.Replaces o n)
  | .setGlobal _ _ => inferInstanceAs (Decidable False)
  | .setLocal o' name _ => inferInstanceAs (Decidable (o' = o ∧ name = n))
  | .get _ _ => inferInstanceAs (Decidable False)
  | .inject _ _ => inferInstanceAs (Decidable False)
  | .clearGlobal => inferInstanceAs (Decidable False)
  | .cleanupLocals => inferInstanceAs (Decidable True)

end StoreOp

end SuiteRunner

import SuiteRunner.Proofs.Variables.Operations

/-!
  SuiteRunner.Proofs.Variables.Ownership
  ────────────────────────────────
  **WHAT CAN BE DONE THROUGH THE SCOPE OF ONE OWNER.**

  Whoever holds the scope of an owner can look names up and write variables through it, one after
  another, and nothing else.  `Through` is the grammar of such functions on stores.  Two facts hold
  of a look-up and of a write, and so of all of them:

    • `Through.untouched` — the local variables of other owners stay as they are,
    • `Through.blind` — on stores that differ in nothing but local variables of another owner they
      have the same result, and the stores they leave differ in nothing else.

  Filling texts and documents is done through a scope: `through_inject`, `through_injectJson`.
-/

namespace SuiteRunner

open Registry

namespace Store

/-! ## §1. Local variables of one owner. -/

/-- An owner has the same local variables in two stores, in memory and in the registry. -/
structure SameLocals (o : Owner) (s u : Store) : Prop where
  memory : ∀ n, s.getLocal o n = u.getLocal o n
  rows : ∀ n, s.rowValue (localKey o n) = u.rowValue (localKey o n)

/-- **Two stores differ in nothing but the local variables of one owner.** -/
structure SameBut (o : Owner) (s u : Store) : Prop where
  globals : ∀ n, s.getGlobal n = u.getGlobal n
  globalRows : ∀ n, s.rowValue (globalKey n) = u.rowValue (globalKey n)
  locals : ∀ p, p ≠ o → SameLocals p s u
  /-- Either both have a registry or none has. -/
  registry : s.registry.isSome = u.registry.isSome

variable {o p : Owner} {s m u : Store}

theorem SameLocals.refl (o : Owner) (s : Store) : SameLocals o s s := ⟨fun _ => rfl, fun _ => rfl⟩

/-- What stays through two changes in a row stays through both. -/
theorem SameLocals.trans (h : SameLocals o s m) (h' : SameLocals o m u) : SameLocals o s u :=
  ⟨fun n => (h.memory n).trans (h'.memory n), fun n => (h.rows n).trans (h'.rows n)⟩

/-! ## §2. Writes. -/

section

variable (s : Store) (o : Owner) (n v : String)

/-- Setting a global variable writes one row, if there is a registry. -/
theorem rowValue_setGlobal (k : RowKey) :
    (s.setGlobal n v).rowValue k =
      if k = globalKey n ∧ s.registry.isSome then some v else s.rowValue k := by
  rw [setGlobal_eq]
  unfold rowValue
  cases s.registry with
  | none =>
    rw [if_neg fun h => nomatch h.2]
    rfl
  | some r =>
    show (r.put (globalKey n) v s.clock).valueAt k = _
    simp only [valueAt_put, Option.isSome_some, and_true]
    rfl

/-- **A global variable that was set is found,** and the others are as before. -/
theorem getGlobal_setGlobal (m : String) :
    (s.setGlobal n v).getGlobal m = if m = n then some v else s.getGlobal m := by
  rw [setGlobal_eq]
  exact Assoc.get?_insert m n v s.globals

/-- No local variable is touched by it. -/
theorem getLocal_setGlobal (p : Owner) (m : String) :
    (s.setGlobal n v).getLocal p m = s.getLocal p m := by
  rw [setGlobal_eq]
  rfl

theorem registry_setGlobal : (s.setGlobal n v).registry.isSome = s.registry.isSome := by
  rw [setGlobal_eq]
  exact Option.isSome_map

/-- Both ids of an owner are given; only such an owner has rows. -/
def Named (o : Owner) : Prop := (o.suite.isEmpty || o.testCase.isEmpty) = false

instance (o : Owner) : Decidable (Named o) := inferInstanceAs (Decidable (_ = false))

/-- Setting a local variable writes one row, if there is a registry and its owner has names. -/
theorem rowValue_setLocal (k : RowKey) :
    (s.setLocal o n v).rowValue k =
      if (k = localKey o n ∧ Named o) ∧ s.registry.isSome then some v else s.rowValue k := by
  rw [setLocal_eq]
  unfold rowValue Named
  cases s.registry with
  | none =>
    rw [if_neg fun h => nomatch h.2]
    rfl
  | some r =>
    show Registry.valueAt (if (o.suite.isEmpty || o.testCase.isEmpty) = true then r else _) k = _
    by_cases hnamed : (o.suite.isEmpty || o.testCase.isEmpty) = true
    · rw [if_pos hnamed, if_neg fun h => nomatch h.1.2.symm.trans hnamed]
      rfl
    · rw [if_neg hnamed, valueAt_put]
      simp only [Bool.not_eq_true _ ▸ hnamed, and_true, Option.isSome_some]
      rfl

/-- **A local variable that was set is found by its owner,** and no other is touched. -/
theorem getLocal_setLocal (p : Owner) (m : String) :
    (s.setLocal o n v).getLocal p m = if p = o ∧ m = n then some v else s.getLocal p m := by
  rw [setLocal_eq]
  show Assoc.get? (p, m) (Assoc.insert (o, n) v s.locals) = _
  rw [Assoc.get?_insert]
  simp only [Prod.mk.injEq]
  rfl

/-- No global variable is touched by it. -/
theorem getGlobal_setLocal (m : String) : (s.setLocal o n v).getGlobal m = s.getGlobal m := by
  rw [setLocal_eq]
  rfl

theorem registry_setLocal : (s.setLocal o n v).registry.isSome = s.registry.isSome := by
  rw [setLocal_eq]
  exact Option.isSome_map

end

/-- **A write through one scope leaves the local variables of others as they are.** -/
theorem sameLocals_set (hp : p ≠ o) (scope : Scope) (n v : String) (s : Store) :
    SameLocals p s (s.set o scope n v) := by
  -- the key that is written belongs to nobody or to `o`, so it is none of those of `p`
  cases scope with
  | global =>
    refine ⟨fun m => (getLocal_setGlobal s n v p m).symm, fun m => ?_⟩
    show _ = (s.setGlobal n v).rowValue (localKey p m)
    rw [rowValue_setGlobal, if_neg fun h => localKey_ne_globalKey p m n h.1]
  | perCase =>
    refine ⟨fun m => ?_, fun m => ?_⟩
    · show _ = (s.setLocal o n v).getLocal p m
      rw [getLocal_setLocal, if_neg fun h => hp h.1]
    · show _ = (s.setLocal o n v).rowValue (localKey p m)
      rw [rowValue_setLocal, if_neg fun h => hp (localKey_inj.mp h.1.1).1]

/-- **A write does not bring out a difference** in local variables of any owner. -/
theorem sameBut_set (h : SameBut p s u) (o : Owner) (scope : Scope) (n v : String) :
    SameBut p (s.set o scope n v) (u.set o scope n v) := by
  -- both stores get the same value under the same key, and all other keys are as they were
  cases scope with
  | global =>
    show SameBut p (s.setGlobal n v) (u.setGlobal n v)
    refine ⟨fun m => ?_, fun m => ?_, fun q hq => ⟨fun m => ?_, fun m => ?_⟩, ?_⟩
    · rw [getGlobal_setGlobal, getGlobal_setGlobal, h.globals]
    · rw [rowValue_setGlobal, rowValue_setGlobal, h.globalRows, h.registry]
    · rw [getLocal_setGlobal, getLocal_setGlobal, (h.locals q hq).memory]
    · rw [rowValue_setGlobal, rowValue_setGlobal, (h.locals q hq).rows, h.registry]
    · rw [registry_setGlobal, registry_setGlobal, h.registry]
  | perCase =>
    show SameBut p (s.setLocal o n v) (u.setLocal o n v)
    refine ⟨fun m => ?_, fun m => ?_, fun q hq => ⟨fun m => ?_, fun m => ?_⟩, ?_⟩
    · rw [getGlobal_setLocal, getGlobal_setLocal, h.globals]
    · rw [rowValue_setLocal, rowValue_setLocal, h.globalRows, h.registry]
    · rw [getLocal_setLocal, getLocal_setLocal, (h.locals q hq).memory]
    · rw [rowValue_setLocal, rowValue_setLocal, (h.locals q hq).rows, h.registry]
    · rw [registry_setLocal, registry_setLocal, h.registry]

/-! ## §3. Look-ups. -/

section

variable (s : Store) (o : Owner) (n : String)

/-- A look-up brings the row of its owner into memory, if memory has nothing. -/
theorem getLocal_after_get (p : Owner) (m : String) :
    (s.get o n).2.getLocal p m =
      if (p = o ∧ m = n) ∧ s.inMemory o n = none then
        (s.rowValue (localKey o n)).or (s.getLocal p m)
      else s.getLocal p m := by
  obtain ⟨v, hm, hget⟩ | ⟨hm, v, hl, hget⟩ | ⟨hm, hl, v, -, hget⟩ | ⟨hm, hl, -, hget⟩ :=
    get_by_values s o n
  · rw [hget, if_neg fun h => nomatch h.2.symm.trans hm]
  · rw [hget, hl]
    show Assoc.get? (p, m) (Assoc.insert (o, n) v s.locals) = _
    rw [Assoc.get?_insert]
    simp only [Prod.mk.injEq, hm, and_true, Option.some_or]
    rfl
  · rw [hget, hl, Option.none_or, ite_self]
    rfl
  · rw [hget, hl, Option.none_or, ite_self]

/-- A look-up brings the global row into memory, if its owner has no row either. -/
theorem getGlobal_after_get (m : String) :
    (s.get o n).2.getGlobal m =
      if m = n ∧ s.inMemory o n = none ∧ s.rowValue (localKey o n) = none then
        (s.rowValue (globalKey n)).or (s.getGlobal m)
      else s.getGlobal m := by
  obtain ⟨v, hm, hget⟩ | ⟨hm, v, hl, hget⟩ | ⟨hm, hl, v, hg, hget⟩ | ⟨hm, hl, hg, hget⟩ :=
    get_by_values s o n
  · rw [hget, if_neg fun h => nomatch h.2.1.symm.trans hm]
  · rw [hget, if_neg fun h => nomatch h.2.2.symm.trans hl]
    rfl
  · rw [hget, hg]
    show Assoc.get? m (Assoc.insert n v s.globals) = _
    rw [Assoc.get?_insert]
    simp only [hm, hl, and_true, Option.some_or]
    rfl
  · rw [hget, hg, Option.none_or, ite_self]

end

/-- **A look-up through one scope leaves the local variables of others as they are.** -/
theorem sameLocals_get (hp : p ≠ o) (n : String) (s : Store) : SameLocals p s (s.get o n).2 := by
  refine ⟨fun m => ?_, fun m => (rowValue_get s o n _).symm⟩
  rw [getLocal_after_get, if_neg fun h => hp h.1.1]

/-- **What another owner has is not seen in a look-up,** neither in its result nor in what it brings
into memory. -/
theorem sameBut_get (h : SameBut p s u) (hp : o ≠ p) (n : String) :
    (s.get o n).1 = (u.get o n).1 ∧ SameBut p (s.get o n).2 (u.get o n).2 := by
  -- all that a look-up goes by, in memory and in rows, belongs to `o` or to nobody
  have hown := h.locals o hp
  have hmemory : s.inMemory o n = u.inMemory o n := by
    rw [inMemory_eq, inMemory_eq, hown.memory, h.globals]
  refine ⟨?_, fun m => ?_, fun m => ?_, fun q hq => ⟨fun m => ?_, fun m => ?_⟩, ?_⟩
  · rw [get_value, get_value, hmemory, hown.rows, h.globalRows]
  · rw [getGlobal_after_get, getGlobal_after_get, hmemory, hown.rows, h.globalRows, h.globals]
  · rw [rowValue_get, rowValue_get, h.globalRows]
  · rw [getLocal_after_get, getLocal_after_get, hmemory, hown.rows, (h.locals q hq).memory]
  · rw [rowValue_get, rowValue_get, (h.locals q hq).rows]
  · rw [get_registry, get_registry, h.registry]

/-! ## §4. Functions through a scope. -/

/-- **The grammar of what can be done through the scope of an owner.** -/
inductive Through (o : Owner) : {α : Type} → (Store → α × Store) → Prop where
  | give {α : Type} (a : α) : Through o fun s => (a, s)
  | get (n : String) : Through o fun s => s.get o n
  | set (scope : Scope) (n v : String) : Through o fun s => ((), s.set o scope n v)
  | bind {α β : Type} {f : Store → α × Store} {g : α → Store → β × Store} (hf : Through o f)
      (hg : ∀ a, Through o (g a)) : Through o fun s => g (f s).1 (f s).2

variable {α β : Type} {f g : Store → α × Store}

/-- What is equal to something that goes through the scope goes through it. -/
theorem Through.of_eq (h : Through o f) (heq : ∀ s, g s = f s) : Through o g := by
  rw [funext heq]
  exact h

/-- Something is made of a result. -/
theorem Through.map (h : Through o f) (g : α → β) : Through o fun s => (g (f s).1, (f s).2) :=
  .bind h fun a => .give (g a)

/-- **The local variables of other owners stay as they are.** -/
theorem Through.untouched (h : Through o f) (hp : p ≠ o) (s : Store) : SameLocals p s (f s).2 := by
  induction h generalizing s with
  | give a => exact .refl p s
  | get n => exact sameLocals_get hp n s
  | set scope n v => exact sameLocals_set hp scope n v s
  | bind _ _ ihf ihg => exact (ihf s).trans (ihg _ _)

/-- **What other owners have is not seen.** -/
theorem Through.blind (h : Through o f) (hp : o ≠ p) (hsame : SameBut p s u) :
    (f s).1 = (f u).1 ∧ SameBut p (f s).2 (f u).2 := by
  induction h generalizing s u with
  | give a => exact ⟨rfl, hsame⟩
  | get n => exact sameBut_get hsame hp n
  | set scope n v => exact ⟨rfl, sameBut_set hsame _ scope n v⟩
  | @bind _ _ f g _ _ ihf ihg =>
    -- the second function is chosen by the result of the first, which is the same
    obtain ⟨hresult, hnext⟩ := ihf hsame
    show (g (f s).1 (f s).2).1 = (g (f u).1 (f u).2).1
      ∧ SameBut p (g (f s).1 (f s).2).2 (g (f u).1 (f u).2).2
    rw [← hresult]
    exact ihg (f s).1 hnext

/-! ## §5. Texts and documents. -/

/-- A text is filled piece by piece, and each placeholder is one look-up. -/
theorem through_fill (o : Owner) (ps : List Template.Piece) : Through o (fill o ps) := by
  induction ps with
  | nil => exact .give []
  | cons piece rest ih =>
    cases piece with
    | char c => exact .map ih fun cs => c :: cs
    | hole name => exact .bind (.get name) fun v => .map ih fun cs => (v.getD "").toList ++ cs

/-- Filling a text is done through the scope. -/
theorem through_inject (o : Owner) (text : String) : Through o fun s => s.inject o text :=
  .map (through_fill o (Template.pieces text)) String.ofList

mutual
/-- Filling a document is done through the scope. -/
theorem through_injectJson (o : Owner) : ∀ v : Json, Through o (injectJson o v)
  | .str t => .map (through_inject o t) Json.str
  | .arr xs => .map (through_injectItems o xs) Json.arr
  | .obj ms => .map (through_injectMembers o ms) Json.ofMembers
  | .null => .give Json.null
  | .bool b => .give (Json.bool b)
  | .num n => .give (Json.num n)

/-- The texts of items are filled through the scope, one item after another. -/
theorem through_injectItems (o : Owner) : ∀ xs : List Json, Through o (injectItems o xs)
  | [] => .give []
  | x :: rest => .bind (through_injectJson o x) fun x =>
      .map (through_injectItems o rest) fun xs => x :: xs

theorem through_injectMembers (o : Owner) :
    ∀ ms : List (String × Json), Through o (injectMembers o ms)
  | [] => .give []
  | (k, v) :: rest => .bind (through_inject o k) fun k => .bind (through_injectJson o v) fun v =>
      .map (through_injectMembers o rest) fun ms => (k, v) :: ms
end

end Store

end SuiteRunner

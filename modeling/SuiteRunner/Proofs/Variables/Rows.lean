import SuiteRunner.Variables.Registry

/-!
  SuiteRunner.Proofs.Variables.Rows
  ────────────────────────────────
  **WHAT WRITES AND REMOVALS DO TO THE ROWS OF A REGISTRY.**

  `valueAt` is the view of a registry that everything else is said in: the value at an address.
  One equation for each way to change the rows:

    • `find?_put`, `valueAt_put` — a write changes the row and the value at its own address only,
    • `find?_removeIf`, `valueAt_removeIf` — a removal empties the addresses that it names,
    • `keys_put`, `keys_removeIf` — the addresses that are in use afterwards.
-/

namespace SuiteRunner

namespace Registry

/-! ## §1. Addresses. -/

/-- The value at an address. -/
def valueAt (r : Registry) (k : RowKey) : Option String := (r.find? k).map Row.value

/-- The addresses that are in use, one for each row. -/
def keys (r : Registry) : List RowKey := r.rows.map Row.key

/-- **The keys of local rows differ** if the owners or the names do. -/
theorem localKey_inj {o o' : Owner} {n n' : String} :
    localKey o n = localKey o' n' ↔ o = o' ∧ n = n' := by
  obtain ⟨s, t⟩ := o
  obtain ⟨s', t'⟩ := o'
  unfold localKey
  simp only [RowKey.mk.injEq, Owner.mk.injEq, true_and, and_assoc]

/-- The keys of global rows differ if the names do. -/
theorem globalKey_inj {n n' : String} : globalKey n = globalKey n' ↔ n = n' := by
  unfold globalKey
  simp only [RowKey.mk.injEq, true_and]

/-- No local row has the key of a global one. -/
theorem localKey_ne_globalKey (o : Owner) (n m : String) : localKey o n ≠ globalKey m := by
  intro h
  have hscope : Scope.perCase = Scope.global := congrArg RowKey.scope h
  cases hscope

/-! ## §2. Finding. -/

/-- The row that is found under a key has that key. -/
theorem find?_key {r : Registry} {k : RowKey} {row : Row} (h : r.find? k = some row) :
    row.key = k := by
  unfold find? at h
  exact eq_of_beq (List.find?_some (p := fun row : Row => row.key == k) h)

theorem find?_eq_none_iff {r : Registry} {k : RowKey} : r.find? k = none ↔ k ∉ r.keys := by
  unfold find? keys
  rw [List.find?_eq_none]
  simp only [beq_iff_eq, List.mem_map, not_exists, not_and]

/-- A registry has the keys that are listed. -/
theorem has_iff {r : Registry} {k : RowKey} : r.has k = true ↔ k ∈ r.keys := by
  unfold has
  rw [Option.isSome_iff_ne_none, Ne, find?_eq_none_iff, Decidable.not_not]

/-- A key has no value exactly if it is not listed. -/
theorem valueAt_eq_none_iff {r : Registry} {k : RowKey} : r.valueAt k = none ↔ k ∉ r.keys := by
  unfold valueAt
  rw [Option.map_eq_none_iff, find?_eq_none_iff]

/-! ## §3. Writing. -/

/-- A change that keeps keys changes the row that is found. -/
theorem find?_map_of_key (rows : List Row) (f : Row → Row) (hf : ∀ row, (f row).key = row.key)
    (k : RowKey) :
    (rows.map f).find? (fun row => row.key == k) = (rows.find? fun row => row.key == k).map f := by
  rw [List.find?_map]
  congr 2
  funext row
  show ((f row).key == k) = (row.key == k)
  rw [hf]

/-- The row at the address of a write: the old one with another value, or a new one. -/
def written (r : Registry) (k : RowKey) (v : String) (now : Int) : Row :=
  match r.find? k with
  | some row => { row with value := v, updatedAt := now }
  | none => ⟨r.nextId, k, v, now, now⟩

/-- **A write changes the row at its own address only.** -/
theorem find?_put (r : Registry) (k : RowKey) (v : String) (now : Int) (j : RowKey) :
    (r.put k v now).find? j = if j = k then some (r.written k v now) else r.find? j := by
  unfold put written
  by_cases hk : r.has k = true
  · rw [if_pos hk]
    -- the row is replaced in its place
    obtain ⟨old, hold⟩ := Option.isSome_iff_exists.mp hk
    unfold find? at hold ⊢
    rw [find?_map_of_key]
    · by_cases hj : j = k
      · rw [if_pos hj, hj, hold]
        show some (if old.key = k then _ else old) = _
        rw [if_pos (find?_key hold)]
      · rw [if_neg hj]
        cases hrow : r.rows.find? fun row => row.key == j with
        | none => rfl
        | some row =>
          have hkey : row.key = j := find?_key hrow
          show some (if row.key = k then _ else row) = some row
          rw [if_neg (by rw [hkey]; exact hj)]
    · intro row
      by_cases h : row.key = k
      · rw [if_pos h]
      · rw [if_neg h]
  · rw [if_neg hk]
    -- the key is new: the row goes to the end
    have hnone : r.find? k = none := by
      rw [find?_eq_none_iff, ← has_iff]
      exact hk
    unfold find? at hnone ⊢
    rw [List.find?_append, List.find?_singleton, hnone]
    by_cases hj : j = k
    · rw [if_pos hj, hj, hnone, if_pos (beq_self_eq_true k)]
      rfl
    · rw [if_neg hj, if_neg (by rw [beq_iff_eq]; exact Ne.symm hj), Option.or_none]

/-- **A write changes the value at its own address only.** -/
theorem valueAt_put (r : Registry) (k : RowKey) (v : String) (now : Int) (j : RowKey) :
    (r.put k v now).valueAt j = if j = k then some v else r.valueAt j := by
  unfold valueAt
  rw [find?_put]
  by_cases hj : j = k
  · rw [if_pos hj, if_pos hj]
    unfold written
    cases r.find? k with
    | none => rfl
    | some row => rfl
  · rw [if_neg hj, if_neg hj]

/-- A row after a write was there before, perhaps with another value, or it is new. -/
theorem mem_put_cases {r : Registry} {k : RowKey} {v : String} {now : Int} {row : Row}
    (h : row ∈ (r.put k v now).rows) :
    row ∈ r.rows ∨ (∃ old ∈ r.rows, row = { old with value := v, updatedAt := now }) ∨
      row = ⟨r.nextId, k, v, now, now⟩ := by
  unfold put at h
  by_cases hk : r.has k = true
  · rw [if_pos hk] at h
    obtain ⟨old, hold, hrow⟩ := List.mem_map.mp h
    by_cases hkey : old.key = k
    · rw [if_pos hkey] at hrow
      exact .inr (.inl ⟨old, hold, hrow.symm⟩)
    · rw [if_neg hkey] at hrow
      exact .inl (hrow ▸ hold)
  · rw [if_neg hk] at h
    rcases List.mem_append.mp h with hold | hnew
    · exact .inl hold
    · exact .inr (.inr (List.mem_singleton.mp hnew))

/-- A value after a write is the one written, or it was there before. -/
theorem of_valueAt_put {r : Registry} {k j : RowKey} {v u : String} {now : Int}
    (h : (r.put k v now).valueAt j = some u) : j = k ∧ v = u ∨ r.valueAt j = some u := by
  rw [valueAt_put] at h
  by_cases hj : j = k
  · rw [if_pos hj] at h
    exact .inl ⟨hj, Option.some.inj h⟩
  · rw [if_neg hj] at h
    exact .inr h

/-- A row is put in its place, or at the end if its key is new. -/
theorem keys_put (r : Registry) (k : RowKey) (v : String) (now : Int) :
    (r.put k v now).keys = if k ∈ r.keys then r.keys else r.keys ++ [k] := by
  unfold put
  by_cases hk : r.has k = true
  · rw [if_pos hk, if_pos (has_iff.mp hk)]
    unfold keys
    rw [List.map_map]
    apply List.map_congr_left
    intro row _
    show (if row.key = k then { row with value := v, updatedAt := now } else row).key = row.key
    by_cases h : row.key = k
    · rw [if_pos h]
    · rw [if_neg h]
  · rw [if_neg hk, if_neg (fun h => hk (has_iff.mpr h))]
    show (r.rows ++ [_]).map Row.key = _
    rw [List.map_append]
    rfl

/-- A local variable is written if its owner is given in full, and else refused. -/
theorem set_local (r : Registry) (o : Owner) (n v : String) (now : Int) :
    r.set { name := n, value := v, scope := .perCase, suite := some o.suite,
            testCase := some o.testCase } now =
      if o.suite.isEmpty || o.testCase.isEmpty then .error (.missingOwner n)
      else .ok (r.put (localKey o n) v now) := by
  unfold set keyOf
  by_cases h : (o.suite.isEmpty || o.testCase.isEmpty) = true
  · rw [if_pos h]
    simp only [h, if_true]
    rfl
  · rw [if_neg h]
    simp only [h]
    rfl

/-! ## §4. Removing. -/

/-- **A removal empties the addresses that it names,** and no others. -/
theorem find?_removeIf (r : Registry) (test : RowKey → Bool) (k : RowKey) :
    (r.removeIf fun row => test row.key).2.find? k = if test k then none else r.find? k := by
  unfold removeIf find?
  rw [List.find?_filter]
  by_cases hk : test k = true
  · rw [if_pos hk, List.find?_eq_none]
    intro row _ h
    have hboth : test row.key = false ∧ row.key = k := by simpa using h
    rw [hboth.2, hk] at hboth
    cases hboth.1
  · rw [if_neg hk]
    congr 1
    funext row
    by_cases h : row.key = k
    · simp [h, hk]
    · simp [h]

/-- What is taken out by its key has no value any more, and all else keeps its value. -/
theorem valueAt_removeIf (r : Registry) (test : RowKey → Bool) (k : RowKey) :
    (r.removeIf fun row => test row.key).2.valueAt k =
      if test k then none else r.valueAt k := by
  unfold valueAt
  rw [find?_removeIf]
  by_cases hk : test k = true
  · rw [if_pos hk, if_pos hk]
    rfl
  · rw [if_neg hk, if_neg hk]

/-- The keys that are left are those that are not taken out. -/
theorem keys_removeIf (r : Registry) (test : RowKey → Bool) :
    (r.removeIf fun row => test row.key).2.keys = r.keys.filter fun k => !test k := by
  unfold removeIf keys
  rw [List.filter_map]
  rfl

/-- Clearing takes out the global rows. -/
theorem valueAt_clearGlobal (r : Registry) (k : RowKey) :
    r.clearGlobal.2.valueAt k = if k.scope == .global then none else r.valueAt k :=
  valueAt_removeIf r (fun k => k.scope == .global) k

/-- Sweeping takes out the local rows. -/
theorem valueAt_deleteAllLocal (r : Registry) (k : RowKey) :
    r.deleteAllLocal.2.valueAt k = if k.scope == .perCase then none else r.valueAt k :=
  valueAt_removeIf r (fun k => k.scope == .perCase) k

/-! ## §5. Looking up. -/

/-- With both ids of an owner a name stands for the owner's local variable, else for the global
one. -/
theorem lookup_value (r : Registry) (o : Owner) (n : String) :
    (r.lookup n (some o.suite) (some o.testCase)).map Row.value =
      (r.valueAt (localKey o n)).orElse fun _ => r.valueAt (globalKey n) := by
  show Option.map Row.value ((r.find? (localKey o n)).orElse fun _ => r.find? (globalKey n)) = _
  unfold valueAt
  cases r.find? (localKey o n) with
  | none => rfl
  | some row => rfl

end Registry

end SuiteRunner

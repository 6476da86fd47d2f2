import SuiteRunner.Proofs.Outside.Results
import SuiteRunner.Proofs.Variables.Persistence
import SuiteRunner.Proofs.Variables.Slots

/-!
  SuiteRunner.Proofs.Variables.Maps
  ────────────────────────────────
  **A REGISTRY HOLDS WHAT TWO MAPS HOLD.**

  Variables are added, set and deleted, and the registry is closed and opened again.  Two maps, from
  global names and from names of owners to values, follow the same operations.

  The invariant is `Holds`: the rows have addresses of their own, each the address of a slot whose
  owner is given in full, and the value at the address of a slot is that of the slot in the maps.
  What an operation does to the rows is said once for each (`after_add`, `after_set`,
  `delete_cases`).

    • `Holds.put`, `Holds.removeIf` — writes and removals keep the invariant,
    • `Holds.after` — so does every operation, which the registry survives, and
    • `Holds.afterAll` — every run.
-/

namespace SuiteRunner

open Registry

/-! ## §1. Operations. -/

/-- What is done with a registry; a write is made at some time. -/
inductive RegistryOp where
  | add (v : NewVariable) (override : Bool) (now : Int64)
  | set (v : NewVariable) (now : Int64)
  | delete (scope : Scope) (suite testCase : Option String) (name : String)
  | deleteAllLocal
  | clearGlobal
  | reopen

/-- The registry after an operation; one that is refused changes nothing.  A registry that is
opened again is what its text stands for, if the text can be read. -/
def Registry.after (r : Registry) : RegistryOp → Option Registry
  | .add v override now =>
    match r.add v override now.toInt with
    | .ok (_, r') => some r'
    | .error _ => some r
  | .set v now =>
    match r.set v now.toInt with
    | .ok r' => some r'
    | .error _ => some r
  | .delete scope suite testCase name => some (r.delete scope suite testCase name).2
  | .deleteAllLocal => some r.deleteAllLocal.2
  | .clearGlobal => some r.clearGlobal.2
  | .reopen => Registry.ofText? r.toText

/-- The registry after operations in order. -/
def Registry.afterAll (r : Registry) (ops : List RegistryOp) : Option Registry :=
  ops.foldlM Registry.after r

/-- The maps after an operation. -/
def VariableMaps.after (m : VariableMaps) : RegistryOp → VariableMaps
  | .add v override _ =>
    match v.slot? with
    | some slot =>
      if (m.valueOf slot).isSome && !override then m else m.put slot (some v.value)
    | none => m
  | .set v _ =>
    match v.slot? with
    | some slot => m.put slot (some v.value)
    | none => m
  | .delete scope suite testCase name =>
    match slotNamed scope suite testCase name with
    | some slot => m.put slot none
    | none => m
  | .deleteAllLocal => { m with locals := fun _ _ => none }
  | .clearGlobal => { m with globals := fun _ => none }
  | .reopen => m

/-- The maps after operations in order. -/
def VariableMaps.afterAll (m : VariableMaps) (ops : List RegistryOp) : VariableMaps :=
  ops.foldl VariableMaps.after m

/-! ## §2. What each operation does. -/

namespace Registry

/-- A variable that asks for no slot is refused. -/
theorem add_of_none (r : Registry) {v : NewVariable} (hv : v.slot? = none) (override : Bool)
    (now : Int) : r.add v override now = .error (.missingOwner v.name) := by
  unfold add
  rw [keyOf_eq, hv]
  rfl

/-- A slot that is taken is not written to again unless it may be. -/
theorem add_of_taken (r : Registry) {v : NewVariable} {slot : Slot} (hv : v.slot? = some slot)
    (hslot : r.has slot.key = true) (now : Int) :
    r.add v false now
      = .error (.variableConflict v.name v.scope (r.suggestion slot.key)) := by
  unfold add
  rw [keyOf_eq, hv]
  show (if r.has slot.key && !false then _ else _) = _
  rw [hslot]
  rfl

/-- Any other variable is written, and its row is given back. -/
theorem add_written (r : Registry) {v : NewVariable} {slot : Slot} (hv : v.slot? = some slot)
    {override : Bool} (hfree : r.has slot.key = false ∨ override = true) (now : Int) :
    r.add v override now
      = .ok (r.written slot.key v.value now, r.put slot.key v.value now) := by
  have hcondition : (r.has slot.key && !override) = false := by
    rcases hfree with h | h
    · rw [h, Bool.false_and]
    · rw [h, Bool.not_true, Bool.and_false]
  unfold add
  rw [keyOf_eq, hv]
  dsimp only
  rw [ok_bind, hcondition, if_neg (by decide), find?_put, if_pos rfl]
  rfl

theorem set_of_none (r : Registry) {v : NewVariable} (hv : v.slot? = none) (now : Int) :
    r.set v now = .error (.missingOwner v.name) := by
  unfold set
  rw [keyOf_eq, hv]
  rfl

theorem set_written (r : Registry) {v : NewVariable} {slot : Slot} (hv : v.slot? = some slot)
    (now : Int) : r.set v now = .ok (r.put slot.key v.value now) := by
  unfold set
  rw [keyOf_eq, hv]
  rfl

/-- The registry after a variable was added, or refused. -/
theorem after_add (r : Registry) (v : NewVariable) (override : Bool) (now : Int64) :
    r.after (.add v override now) = some (match v.slot? with
      | some slot =>
        if r.has slot.key && !override then r else r.put slot.key v.value now.toInt
      | none => r) := by
  unfold after
  cases hv : v.slot? with
  | none =>
    dsimp only
    rw [add_of_none r hv]
  | some slot =>
    dsimp only
    by_cases hrefused : (r.has slot.key && !override) = true
    · obtain ⟨htaken, hplain⟩ := Bool.and_eq_true_iff.mp hrefused
      rw [Bool.not_eq_true'] at hplain
      rw [if_pos hrefused, hplain, add_of_taken r hv htaken]
    · have hfree : r.has slot.key = false ∨ override = true := by
        cases htaken : r.has slot.key with
        | false => exact .inl rfl
        | true =>
          rw [htaken, Bool.true_and, Bool.not_eq_true', Bool.not_eq_false] at hrefused
          exact .inr hrefused
      rw [if_neg hrefused, add_written r hv hfree]

/-- The registry after a variable was set, or refused. -/
theorem after_set (r : Registry) (v : NewVariable) (now : Int64) :
    r.after (.set v now) = some (match v.slot? with
      | some slot => r.put slot.key v.value now.toInt
      | none => r) := by
  unfold after
  cases hv : v.slot? with
  | none =>
    dsimp only
    rw [set_of_none r hv]
  | some slot =>
    dsimp only
    rw [set_written r hv]

/-- A deletion is about one slot, which is the one that is named, or one that never has a value. -/
theorem delete_cases (r : Registry) (scope : Scope) (suite testCase : Option String)
    (name : String) :
    ∃ slot : Slot, r.delete scope suite testCase name
        = (r.has slot.key, (r.removeIf fun row => row.key == slot.key).2) ∧
      (slotNamed scope suite testCase name = some slot ∨
        slotNamed scope suite testCase name = none ∧ ¬slot.Full) := by
  have hcount (k : RowKey) : decide (r.rows.countP (fun row => row.key == k) > 0) = r.has k := by
    unfold has find?
    rw [Bool.eq_iff_iff, decide_eq_true_eq, gt_iff_lt, List.countP_pos_iff, List.find?_isSome]
  unfold delete removeIf
  dsimp only
  simp only [hcount]
  cases scope with
  | global => exact ⟨.global name, rfl, .inl rfl⟩
  | perCase =>
    refine ⟨.perCase ⟨suite.getD "", testCase.getD ""⟩ name, rfl, ?_⟩
    cases suite with
    | none => exact .inr ⟨rfl, fun h => h.1 rfl⟩
    | some s =>
      cases testCase with
      | none => exact .inr ⟨rfl, fun h => h.2 rfl⟩
      | some t => exact .inl rfl

end Registry

/-! ## §3. The invariant. -/

/-- **A registry and two maps hold the same variables,** each at the address of its slot. -/
structure Holds (m : VariableMaps) (r : Registry) : Prop where
  apart : r.keys.Nodup
  slotted : ∀ k ∈ r.keys, ∃ slot : Slot, slot.Full ∧ k = slot.key
  values : ∀ slot : Slot, r.valueAt slot.key = m.valueOf slot
  timed : r.Timed

theorem isTime_toInt (now : Int64) : IsTime now.toInt := by
  have hlow := Int64.le_toInt now
  have hhigh := Int64.toInt_lt now
  exact ⟨hlow, by omega⟩

theorem holds_empty : Holds .empty .empty := by
  refine ⟨List.nodup_nil, ?_, ?_, ?_⟩
  · intro k hk
    cases hk
  · intro slot
    cases slot with
    | global n => rfl
    | perCase o n => rfl
  · intro row hrow
    cases hrow

section

variable {m : VariableMaps} {r : Registry}

theorem Holds.has_key (h : Holds m r) (slot : Slot) :
    r.has slot.key = (m.valueOf slot).isSome := by
  rw [← h.values]
  exact Option.isSome_map.symm

/-- A slot whose owner is not given in full has no value. -/
theorem Holds.valueOf_eq_none (h : Holds m r) {slot : Slot} (hslot : ¬slot.Full) :
    m.valueOf slot = none := by
  rw [← h.values, valueAt_eq_none_iff]
  intro hmem
  obtain ⟨slot', hfull, hkey⟩ := h.slotted _ hmem
  rw [Slot.key_inj] at hkey
  exact hslot (hkey ▸ hfull)

/-- **A write keeps the invariant.** -/
theorem Holds.put (h : Holds m r) {slot : Slot} (hslot : slot.Full) (value : String) {now : Int}
    (hnow : IsTime now) : Holds (m.put slot (some value)) (r.put slot.key value now) := by
  refine ⟨?_, ?_, ?_, ?_⟩
  · -- no key comes twice: a new row is added under a new key only
    rw [keys_put]
    by_cases hmem : slot.key ∈ r.keys
    · rw [if_pos hmem]
      exact h.apart
    · rw [if_neg hmem]
      apply List.Nodup.append h.apart (List.nodup_singleton _)
      intro k hk hnew
      exact hmem (List.mem_singleton.mp hnew ▸ hk)
  · intro k hk
    rw [keys_put] at hk
    by_cases hmem : slot.key ∈ r.keys
    · rw [if_pos hmem] at hk
      exact h.slotted k hk
    · rw [if_neg hmem] at hk
      rcases List.mem_append.mp hk with hold | hnew
      · exact h.slotted k hold
      · exact ⟨slot, hslot, List.mem_singleton.mp hnew⟩
  · intro other
    rw [valueAt_put, VariableMaps.valueOf_put, h.values]
    simp only [Slot.key_inj]
  · -- a row that is there keeps its first time
    intro row hrow
    obtain hold | ⟨old, hold, rfl⟩ | rfl := mem_put_cases hrow
    · exact h.timed row hold
    · exact ⟨(h.timed old hold).1, hnow⟩
    · exact ⟨hnow, hnow⟩

/-- **A removal keeps the invariant,** if the maps forget the slots whose addresses it names. -/
theorem Holds.removeIf (h : Holds m r) (test : RowKey → Bool) {m' : VariableMaps}
    (hm : ∀ slot : Slot, m'.valueOf slot = if test slot.key then none else m.valueOf slot) :
    Holds m' (r.removeIf fun row => test row.key).2 := by
  refine ⟨?_, ?_, ?_, ?_⟩
  · rw [keys_removeIf]
    exact h.apart.filter _
  · intro k hk
    rw [keys_removeIf] at hk
    exact h.slotted k (List.mem_filter.mp hk).1
  · intro slot
    rw [valueAt_removeIf, hm, h.values]
  · intro row hrow
    exact h.timed row (List.mem_filter.mp hrow).1

/-- Adding a variable keeps the invariant, whether it is written or refused. -/
theorem Holds.add (h : Holds m r) (v : NewVariable) (override : Bool) (now : Int64) :
    ∃ r', r.after (.add v override now) = some r' ∧ Holds (m.after (.add v override now)) r' := by
  refine ⟨_, r.after_add v override now, ?_⟩
  unfold VariableMaps.after
  dsimp only
  cases hv : v.slot? with
  | none => exact h
  | some slot =>
    dsimp only
    rw [h.has_key]
    by_cases hrefused : ((m.valueOf slot).isSome && !override) = true
    · rw [if_pos hrefused, if_pos hrefused]
      exact h
    · rw [if_neg hrefused, if_neg hrefused]
      exact h.put (NewVariable.slot_full hv) v.value (isTime_toInt now)

/-- Setting a variable keeps a registry in step with its map. -/
theorem Holds.set (h : Holds m r) (v : NewVariable) (now : Int64) :
    ∃ r', r.after (.set v now) = some r' ∧ Holds (m.after (.set v now)) r' := by
  refine ⟨_, r.after_set v now, ?_⟩
  unfold VariableMaps.after
  dsimp only
  cases hv : v.slot? with
  | none => exact h
  | some slot => exact h.put (NewVariable.slot_full hv) v.value (isTime_toInt now)

/-- A deletion keeps a registry in step with its map. -/
theorem Holds.delete (h : Holds m r) (scope : Scope) (suite testCase : Option String)
    (name : String) :
    Holds (m.after (.delete scope suite testCase name))
      (r.delete scope suite testCase name).2 := by
  obtain ⟨slot, hdelete, hnamed⟩ := r.delete_cases scope suite testCase name
  rw [hdelete]
  apply h.removeIf fun k => k == slot.key
  intro other
  unfold VariableMaps.after
  dsimp only
  simp only [beq_iff_eq, Slot.key_inj]
  obtain hsome | ⟨hnone, hfull⟩ := hnamed
  · rw [hsome]
    exact VariableMaps.valueOf_put m slot none other
  · -- no slot is named, and the one that is emptied had no value
    rw [hnone]
    by_cases hother : other = slot
    · rw [if_pos hother, hother]
      exact h.valueOf_eq_none hfull
    · rw [if_neg hother]

/-- **Every operation keeps the invariant,** and the registry survives it. -/
theorem Holds.after (h : Holds m r) (op : RegistryOp) :
    ∃ r', r.after op = some r' ∧ Holds (m.after op) r' := by
  cases op with
  | add v override now => exact h.add v override now
  | set v now => exact h.set v now
  | delete scope suite testCase name => exact ⟨_, rfl, h.delete scope suite testCase name⟩
  | deleteAllLocal =>
    refine ⟨_, rfl, h.removeIf (fun k => k.scope == .perCase) ?_⟩
    intro slot
    cases slot with
    | global n => rfl
    | perCase o n => rfl
  | clearGlobal =>
    refine ⟨_, rfl, h.removeIf (fun k => k.scope == .global) ?_⟩
    intro slot
    cases slot with
    | global n => rfl
    | perCase o n => rfl
  | reopen =>
    refine ⟨r, ?_, h⟩
    show Registry.ofText? r.toText = some r
    exact ofText?_toText h.timed

/-- **Every run keeps the invariant.** -/
theorem Holds.afterAll (h : Holds m r) (ops : List RegistryOp) :
    ∃ r', r.afterAll ops = some r' ∧ Holds (m.afterAll ops) r' := by
  induction ops generalizing m r with
  | nil => exact ⟨r, rfl, h⟩
  | cons op ops ih =>
    obtain ⟨next, hnext, hholds⟩ := h.after op
    obtain ⟨r', hrun, hend⟩ := ih hholds
    refine ⟨r', ?_, hend⟩
    unfold Registry.afterAll at hrun ⊢
    rw [List.foldlM_cons, hnext]
    exact hrun

end

end SuiteRunner

import SuiteRunner.Proofs.Variables.Cache

/-!
  SuiteRunner.Proofs.Variables.Slots
  ────────────────────────────────
  **WHERE VARIABLES GO, AND TWO MAPS THAT HOLD THEM.**

  A slot is a global name, or a name of an owner.  Every slot has an address of its own, and a
  variable that is to be written asks for a slot or, if it is local and its owner is not given in
  full, for none.  The two maps of `VariableMaps` give each slot at most one value.

    • `Slot.key_inj` — two slots never share an address,
    • `Registry.keyOf_eq` — the address at which a variable is written is that of its slot,
    • `VariableMaps.valueOf_put` — a write to the maps changes the value of one slot only.
-/

namespace SuiteRunner

open Registry

/-! ## §1. Slots. -/

/-- A place for a value: a global name, or a name of an owner. -/
inductive Slot where
  | global (name : String)
  | perCase (owner : Owner) (name : String)
  deriving DecidableEq

namespace Slot

/-- The scope of a slot. -/
def scope : Slot → Scope
  | .global _ => .global
  | .perCase _ _ => .perCase

/-- The address of a slot. -/
def key : Slot → RowKey
  | .global n => globalKey n
  | .perCase o n => localKey o n

/-- The slot of an address. -/
def ofKey (k : RowKey) : Slot :=
  match k.scope with
  | .global => .global k.name
  | .perCase => .perCase ⟨k.suite, k.testCase⟩ k.name

/-- The owner of a slot, if it has one, is given in full. -/
def Full : Slot → Prop
  | .global _ => True
  | .perCase o _ => o.suite ≠ "" ∧ o.testCase ≠ ""

@[simp] theorem ofKey_key (slot : Slot) : ofKey slot.key = slot := by
  cases slot with
  | global n => rfl
  | perCase o n => rfl

theorem scope_ofKey (k : RowKey) : (ofKey k).scope = k.scope := by
  unfold ofKey
  cases k.scope with
  | global => rfl
  | perCase => rfl

/-- **Two slots never share an address.** -/
theorem key_inj {slot slot' : Slot} : slot.key = slot'.key ↔ slot = slot' := by
  constructor
  · intro h
    rw [← ofKey_key slot, ← ofKey_key slot', h]
  · exact congrArg key

end Slot

/-- The slot that a variable asks for; a local one asks for none unless both of its ids are given
and neither is empty. -/
def NewVariable.slot? (v : NewVariable) : Option Slot :=
  match v.scope, v.suite, v.testCase with
  | .global, _, _ => some (.global v.name)
  | .perCase, some s, some t =>
    if s = "" ∨ t = "" then none else some (.perCase ⟨s, t⟩ v.name)
  | .perCase, _, _ => none

theorem NewVariable.slot_full {v : NewVariable} {slot : Slot} (h : v.slot? = some slot) :
    slot.Full := by
  unfold NewVariable.slot? at h
  split at h
  · cases h
    trivial
  · split at h
    · cases h
    · next hfull =>
      cases h
      exact not_or.mp hfull
  · cases h

/-- The slot that is meant where a variable is deleted; a local one is meant only with both ids. -/
def slotNamed (scope : Scope) (suite testCase : Option String) (name : String) : Option Slot :=
  match scope, suite, testCase with
  | .global, _, _ => some (.global name)
  | .perCase, some s, some t => some (.perCase ⟨s, t⟩ name)
  | .perCase, _, _ => none

namespace Registry

/-- **The address at which a variable is written is that of its slot.** -/
theorem keyOf_eq (v : NewVariable) :
    keyOf v = match v.slot? with
      | some slot => .ok slot.key
      | none => .error (.missingOwner v.name) := by
  obtain ⟨name, value, scope, suite, testCase⟩ := v
  cases scope with
  | global => rfl
  | perCase =>
    cases suite with
    | none => rfl
    | some s =>
      cases testCase with
      | none => rfl
      | some t =>
        unfold keyOf NewVariable.slot?
        dsimp only
        by_cases h : s = "" ∨ t = ""
        · rw [if_pos h, if_pos (by simpa [String.isEmpty_iff] using h)]
        · rw [if_neg h, if_neg (by simpa [String.isEmpty_iff] using h)]
          rfl

end Registry

/-! ## §2. Two maps. -/

namespace VariableMaps

/-- No variables. -/
def empty : VariableMaps := ⟨fun _ => none, fun _ _ => none⟩

/-- The value of a slot. -/
def valueOf (m : VariableMaps) : Slot → Option String
  | .global n => m.globals n
  | .perCase o n => m.locals o n

/-- The maps with another value in a slot, or with none there. -/
def put (m : VariableMaps) (slot : Slot) (value : Option String) : VariableMaps :=
  match slot with
  | .global n => { m with globals := fun j => if j = n then value else m.globals j }
  | .perCase o n =>
    { m with locals := fun p j => if p = o ∧ j = n then value else m.locals p j }

/-- **A write to the maps changes the value of one slot only.** -/
theorem valueOf_put (m : VariableMaps) (slot : Slot) (value : Option String) (other : Slot) :
    (m.put slot value).valueOf other = if other = slot then value else m.valueOf other := by
  cases slot with
  | global n =>
    cases other with
    | global j =>
      simp only [Slot.global.injEq]
      rfl
    | perCase p j => rfl
  | perCase o n =>
    cases other with
    | global j => rfl
    | perCase p j =>
      simp only [Slot.perCase.injEq]
      rfl

/-- The slots of a scope that have a value. -/
def slots (m : VariableMaps) (scope : Scope) : Set Slot :=
  {slot | slot.scope = scope ∧ m.valueOf slot ≠ none}

/-- A slot with its value. -/
def entry? (m : VariableMaps) (slot : Slot) : Option (Slot × String) :=
  (m.valueOf slot).map fun value => (slot, value)

end VariableMaps

/-- The slot and the value of a row. -/
def Row.entry (row : Row) : Slot × String := (Slot.ofKey row.key, row.value)

end SuiteRunner

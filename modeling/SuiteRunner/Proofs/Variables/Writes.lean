import SuiteRunner.Proofs.Variables.Lookups
import SuiteRunner.Proofs.Variables.Ownership
import SuiteRunner.Proofs.Variables.Slots

/-!
  SuiteRunner.Proofs.Variables.Writes
  ────────────────────────────────
  **WHAT A STORE HAS IN ITS SLOTS AFTER WRITES.**

  A text that is written to a slot goes to memory, and to the registry if there is one and the slot
  has an owner that is given in full, or none.  Of several texts for one slot the last one stays:

    • `Slot.last` — the text that stays,
    • `held_set`, `stored_set` — one write, in memory and in the registry,
    • `Wrote` — several writes, which leave all other slots as they were.

  What a run does with variables is to look them up and to write some of them, in turn.  `Updated`
  says of two stores that certain texts were written to certain slots between them, in order, and
  that all else was looking up: a slot that was not written is as it was, unless it was empty and
  has been given the value that the registry has of it.

    • `Wrote.updated`, `Remembers.updated` — writes alone, and look-ups alone,
    • `Updated.trans` — one after the other.
-/

namespace SuiteRunner

open Registry

/-! ## §1. The text that stays. -/

/-- The slot of an owner's name in a scope. -/
def Slot.within (o : Owner) : Scope → String → Slot
  | .global, n => .global n
  | .perCase, n => .perCase o n

instance : (slot : Slot) → Decidable slot.Full
  | .global _ => inferInstanceAs (Decidable True)
  | .perCase o _ => inferInstanceAs (Decidable (o.suite ≠ "" ∧ o.testCase ≠ ""))

/-- The last text that is written to a slot. -/
def Slot.last : List (Slot × String) → Slot → Option String
  | [], _ => none
  | (target, v) :: rest, slot => (last rest slot).or (if slot = target then some v else none)

namespace Slot

/-- Of two rows of writes the later one decides, if it has anything for the slot. -/
theorem last_append (writes more : List (Slot × String)) (slot : Slot) :
    last (writes ++ more) slot = (last more slot).or (last writes slot) := by
  induction writes with
  | nil => exact Option.or_none.symm
  | cons w writes ih =>
    show (last (writes ++ more) slot).or _ = (last more slot).or ((last writes slot).or _)
    rw [ih, Option.or_assoc]

theorem last_eq_none_iff {writes : List (Slot × String)} {slot : Slot} :
    last writes slot = none ↔ ∀ v, (slot, v) ∉ writes := by
  induction writes with
  | nil => simp [last]
  | cons w writes ih =>
    obtain ⟨target, v⟩ := w
    unfold last
    rw [Option.or_eq_none_iff, ih]
    by_cases h : slot = target
    · subst h
      rw [if_pos rfl]
      constructor
      · intro hnone
        cases hnone.2
      · intro hno
        exact absurd List.mem_cons_self (hno v)
    · simp [h]

/-- A text that is written to a slot is the last one if all texts for the slot are the same. -/
theorem last_eq_some {writes : List (Slot × String)} {slot : Slot} {v : String}
    (hmem : (slot, v) ∈ writes) (hsame : ∀ w, (slot, w) ∈ writes → w = v) :
    last writes slot = some v := by
  induction writes with
  | nil => cases hmem
  | cons w writes ih =>
    obtain ⟨target, text⟩ := w
    have hrest : ∀ w, (slot, w) ∈ writes → w = v := fun w hw =>
      hsame w (List.mem_cons_of_mem _ hw)
    unfold last
    by_cases hlater : (slot, v) ∈ writes
    · rw [ih hlater hrest]
      rfl
    · -- nothing that is written later goes to this slot
      have hnone : last writes slot = none :=
        last_eq_none_iff.mpr fun w hw => hlater (hrest w hw ▸ hw)
      have hfirst : (slot, v) = (target, text) := (List.mem_cons.mp hmem).resolve_right hlater
      obtain ⟨rfl, rfl⟩ := Prod.mk.inj hfirst
      rw [hnone, if_pos rfl]
      rfl

end Slot

namespace Store

/-! ## §2. Slots of a store. -/

/-- The value that a slot has in memory. -/
def held (s : Store) : Slot → Option String
  | .global n => s.getGlobal n
  | .perCase o n => s.getLocal o n

/-- The value that a slot has in the registry. -/
def stored (s : Store) (slot : Slot) : Option String := s.rowValue slot.key

/-- There is a registry, and it takes what is written to a slot. -/
def Persists (s : Store) (slot : Slot) : Prop := s.registry.isSome ∧ slot.Full

instance (s : Store) (slot : Slot) : Decidable (s.Persists slot) :=
  inferInstanceAs (Decidable (_ ∧ _))

/-- **What is set is in memory,** and the other slots are as before. -/
theorem held_set (s : Store) (o : Owner) (scope : Scope) (n v : String) (slot : Slot) :
    (s.set o scope n v).held slot = if slot = .within o scope n then some v else s.held slot := by
  cases scope with
  | global =>
    cases slot with
    | global m =>
      exact (getGlobal_setGlobal s n v m).trans (if_congr (by rw [Slot.within, Slot.global.injEq])
        rfl rfl)
    | perCase p m => exact getLocal_setGlobal s n v p m
  | perCase =>
    cases slot with
    | global m => exact getGlobal_setLocal s o n v m
    | perCase p m =>
      exact (getLocal_setLocal s o n v p m).trans
        (if_congr (by rw [Slot.within, Slot.perCase.injEq]) rfl rfl)

theorem registry_set (s : Store) (o : Owner) (scope : Scope) (n v : String) :
    (s.set o scope n v).registry.isSome = s.registry.isSome := by
  cases scope with
  | global => exact registry_setGlobal s n v
  | perCase => exact registry_setLocal s o n v

/-- An owner has names exactly if its slots may be kept in a registry. -/
theorem named_iff_full {o : Owner} {n : String} : Named o ↔ (Slot.perCase o n).Full := by
  unfold Named Slot.Full
  rw [Bool.or_eq_false_iff, Bool.eq_false_iff, Bool.eq_false_iff, Ne, Ne, String.isEmpty_iff,
    String.isEmpty_iff]

/-- What is set is in the registry, too, if there is one and the slot is kept there. -/
theorem stored_set (s : Store) (o : Owner) (scope : Scope) (n v : String) (slot : Slot) :
    (s.set o scope n v).stored slot =
      if slot = .within o scope n ∧ s.Persists slot then some v else s.stored slot := by
  cases scope with
  | global =>
    refine (rowValue_setGlobal s n v slot.key).trans (if_congr ?_ rfl rfl)
    rw [show globalKey n = (Slot.global n).key from rfl, Slot.key_inj]
    constructor
    · rintro ⟨rfl, hregistry⟩
      exact ⟨rfl, hregistry, trivial⟩
    · rintro ⟨rfl, hregistry, -⟩
      exact ⟨rfl, hregistry⟩
  | perCase =>
    refine (rowValue_setLocal s o n v slot.key).trans (if_congr ?_ rfl rfl)
    rw [show localKey o n = (Slot.perCase o n).key from rfl, Slot.key_inj]
    constructor
    · rintro ⟨⟨rfl, hnamed⟩, hregistry⟩
      exact ⟨rfl, hregistry, named_iff_full.mp hnamed⟩
    · rintro ⟨rfl, hregistry, hfull⟩
      exact ⟨⟨rfl, named_iff_full.mpr hfull⟩, hregistry⟩

/-! ## §3. Writes one after another. -/

/-- **Texts were written to slots,** one after another, and nothing else was: what a slot has is the
last text written to it, or what it had before, in memory and, where writes persist, in the
registry. -/
structure Wrote (writes : List (Slot × String)) (s s' : Store) : Prop where
  held : ∀ slot, s'.held slot = (Slot.last writes slot).or (s.held slot)
  stored : ∀ slot, s.Persists slot → s'.stored slot = (Slot.last writes slot).or (s.stored slot)
  unstored : ∀ slot, ¬s.Persists slot → s'.stored slot = s.stored slot
  persists : ∀ slot, s'.Persists slot ↔ s.Persists slot

theorem Wrote.refl (s : Store) : Wrote [] s s :=
  ⟨fun _ => rfl, fun _ _ => rfl, fun _ _ => rfl, fun _ => Iff.rfl⟩

variable {s m s' : Store} {writes : List (Slot × String)}

/-- A write before others: it is seen where none of them is. -/
theorem Wrote.cons {target : Slot} {v : String} (h : Wrote [(target, v)] s m)
    (h' : Wrote writes m s') : Wrote ((target, v) :: writes) s s' where
  held slot := by
    rw [h'.held, h.held, ← Option.or_assoc]
    rfl
  stored slot hslot := by
    rw [h'.stored slot ((h.persists slot).mpr hslot), h.stored slot hslot, ← Option.or_assoc]
    rfl
  unstored slot hslot :=
    (h'.unstored slot fun hm => hslot ((h.persists slot).mp hm)).trans (h.unstored slot hslot)
  persists slot := (h'.persists slot).trans (h.persists slot)

/-- One write is a row of writes. -/
theorem wrote_set (s : Store) (o : Owner) (scope : Scope) (n v : String) :
    Wrote [(.within o scope n, v)] s (s.set o scope n v) where
  held slot := by
    rw [held_set]
    unfold Slot.last Slot.last
    split <;> rfl
  stored slot hslot := by
    rw [stored_set]
    unfold Slot.last Slot.last
    by_cases h : slot = .within o scope n
    · rw [if_pos ⟨h, hslot⟩, if_pos h]
      rfl
    · rw [if_neg fun hand => h hand.1, if_neg h]
      rfl
  unstored slot hslot := by rw [stored_set, if_neg fun hand => hslot hand.2]
  persists slot := by
    unfold Persists
    rw [registry_set]

/-! ## §4. Writes and look-ups. -/

/-- **Texts were written to slots,** one after another, and all else was looking up. -/
structure Updated (writes : List (Slot × String)) (s s' : Store) : Prop where
  /-- A slot that was written holds the last text that was. -/
  written : ∀ slot v, Slot.last writes slot = some v → s'.held slot = some v
  /-- Any other slot is as it was, or was filled from the registry. -/
  unwritten : ∀ slot, Slot.last writes slot = none →
    s'.held slot = s.held slot ∨ s.held slot = none ∧ s'.held slot = s.stored slot
  /-- In the registry there is what was written, where writes persist. -/
  stored : ∀ slot, s.Persists slot → s'.stored slot = (Slot.last writes slot).or (s.stored slot)
  unstored : ∀ slot, ¬s.Persists slot → s'.stored slot = s.stored slot
  persists : ∀ slot, s'.Persists slot ↔ s.Persists slot

variable {o : Owner} {more : List (Slot × String)}

/-- Writes alone update the slots that they write. -/
theorem Wrote.updated (h : Wrote writes s s') : Updated writes s s' where
  written slot v hv := by
    rw [h.held, hv]
    rfl
  unwritten slot hnone := .inl (by rw [h.held, hnone, Option.none_or])
  stored := h.stored
  unstored := h.unstored
  persists := h.persists

/-- Look-ups alone update nothing. -/
theorem Remembers.updated (h : Remembers o s s') : Updated [] s s' where
  written _ _ hv := nomatch hv
  unwritten slot _ := by
    cases slot with
    | global n => exact h.globals n
    | perCase p n => exact h.locals p n
  stored slot _ := h.rowValue slot.key
  unstored slot _ := h.rowValue slot.key
  persists slot := by
    unfold Persists
    rw [h.registry]

namespace Updated

/-- What was not written is the same in the registry. -/
theorem stored_of_unwritten (h : Updated writes s s') {slot : Slot}
    (hnone : Slot.last writes slot = none) : s'.stored slot = s.stored slot := by
  by_cases hslot : s.Persists slot
  · rw [h.stored slot hslot, hnone, Option.none_or]
  · exact h.unstored slot hslot

/-- **Writes and then others:** the later ones stay where both went to one slot. -/
theorem trans (h : Updated writes s m) (h' : Updated more m s') :
    Updated (writes ++ more) s s' where
  written slot v hv := by
    rw [Slot.last_append] at hv
    cases hmore : Slot.last more slot with
    | some w =>
      rw [hmore, Option.some_or] at hv
      rw [h'.written slot w hmore, hv]
    | none =>
      -- what the first writes left there is not looked up any more
      rw [hmore, Option.none_or] at hv
      have hm : m.held slot = some v := h.written slot v hv
      obtain hsame | ⟨hempty, -⟩ := h'.unwritten slot hmore
      · rw [hsame, hm]
      · rw [hm] at hempty
        cases hempty
  unwritten slot hnone := by
    rw [Slot.last_append, Option.or_eq_none_iff] at hnone
    obtain ⟨hmore, hfirst⟩ := hnone
    have hrow : m.stored slot = s.stored slot := h.stored_of_unwritten hfirst
    obtain hm | ⟨hempty, hm⟩ := h.unwritten slot hfirst
    · rw [← hm, ← hrow]
      exact h'.unwritten slot hmore
    · right
      refine ⟨hempty, ?_⟩
      obtain hsame | ⟨-, hfilled⟩ := h'.unwritten slot hmore
      · rw [hsame, hm]
      · rw [hfilled, hrow]
  stored slot hslot := by
    rw [h'.stored slot ((h.persists slot).mpr hslot), h.stored slot hslot, Slot.last_append,
      Option.or_assoc]
  unstored slot hslot :=
    (h'.unstored slot fun hm => hslot ((h.persists slot).mp hm)).trans (h.unstored slot hslot)
  persists slot := (h'.persists slot).trans (h.persists slot)

/-- Writes after a look-up. -/
theorem after_look (h : Remembers o s m) (h' : Updated writes m s') : Updated writes s s' :=
  h.updated.trans h'

end Updated

end Store

end SuiteRunner

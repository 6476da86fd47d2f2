import SuiteRunner.Proofs.Number.Rounding

/-!
  SuiteRunner.Proofs.Number.Order
  ────────────────────────────────
  **NUMBERS ON THE EXTENDED LINE.**

  The place of a number is the bottom of the line, its top, or a whole multiple of the smallest
  unit.  Places are ordered like that, and `nan` alone has no place.  A conversion to natural numbers
  goes toward zero and stops at both ends; it is told by what a number is at least:

    • `Binary64.place?_eq_none_iff` — the number without a place,
    • `Binary64.Place.compare` is transitive, and turning it round swaps its answer,
    • `Binary64.le_toNatSaturating_iff` — **the count made of a number is the greatest one, up to the
      top, that the number is at least,** and zero if it is at least none,
    • `Binary64.toNatSaturating_eq_iff_is` — a number that is a count is not changed, and any other
      is.
-/

namespace SuiteRunner.Binary64

/-! ## §1. Places. -/

/-- Only what is no number has no place. -/
theorem place?_eq_none_iff {x : Binary64} : x.place? = none ↔ x = .nan := by
  cases x with
  | nan => simp [place?]
  | inf s => cases s <;> simp [place?]
  | finite s m e => simp [place?]

namespace Place

instance : Std.OrientedCmp Place.compare where
  eq_swap := by
    intro p q
    cases p <;> cases q <;> try rfl
    case «at».«at» a b =>
      show Ord.compare a b = (Ord.compare b a).swap
      exact Std.OrientedCmp.eq_swap

instance : Std.TransCmp Place.compare where
  isLE_trans := by
    intro p q r hpq hqr
    cases p with
    | bottom => cases r <;> rfl
    | top =>
      cases q with
      | bottom | «at» => cases hpq
      | top => exact hqr
    | «at» a =>
      cases q with
      | bottom => cases hpq
      | top =>
        cases r with
        | bottom | «at» => cases hqr
        | top => rfl
      | «at» b =>
        cases r with
        | bottom => cases hqr
        | top => rfl
        | «at» c =>
          have hab : (Ord.compare a b).isLE := hpq
          have hbc : (Ord.compare b c).isLE := hqr
          have hac : (Ord.compare a c).isLE := Std.TransCmp.isLE_trans hab hbc
          exact hac

end Place

/-! ## §2. Counts. -/

/-- The number is exactly a natural number. -/
def Is (x : Binary64) (n : Nat) : Prop := x.place? = some (.at (n * unitsOfOne))

instance (x : Binary64) (n : Nat) : Decidable (x.Is n) := inferInstanceAs (Decidable (_ = _))

/-- The number is a natural number or a greater number. -/
def AtLeast (x : Binary64) (n : Nat) : Prop :=
  ∃ p, x.place? = some p ∧ ((Place.at (n * unitsOfOne)).compare p).isLE = true

theorem Place.at_isLE_iff {u v : Int} : ((Place.at u).compare (.at v)).isLE = true ↔ u ≤ v := by
  show (Ord.compare u v).isLE = true ↔ u ≤ v
  exact Int.isLE_compare

/-- To be at least a natural number is to have a place that is not below it. -/
theorem atLeast_iff_of_place {x : Binary64} {p : Place} (h : x.place? = some p) {n : Nat} :
    x.AtLeast n ↔ ((Place.at (n * unitsOfOne)).compare p).isLE = true := by
  unfold AtLeast
  rw [h]
  constructor
  · rintro ⟨q, hq, hle⟩
    rw [Option.some.inj hq]
    exact hle
  · intro hle
    exact ⟨p, rfl, hle⟩

theorem one_mul_le_iff {m n : Nat} : (m * unitsOfOne : Int) ≤ n * unitsOfOne ↔ m ≤ n := by
  rw [← Int.natCast_mul, ← Int.natCast_mul, Int.ofNat_le]
  exact Nat.mul_le_mul_right_iff unitsOfOne_pos

/-- How many whole ones are in a number of units, toward zero. -/
theorem le_tdiv_iff {u : Int} {n : Nat} (hn : n ≠ 0) :
    n ≤ (u.tdiv (Int.pow 2 1074)).toNat ↔ (n * unitsOfOne : Int) ≤ u := by
  have hone : Int.pow 2 1074 = (unitsOfOne : Int) := by
    unfold unitsOfOne places
    rw [Int.natCast_pow]
    rfl
  have hpos : (0 : Int) < unitsOfOne := Int.natCast_pos.mpr unitsOfOne_pos
  rw [hone]
  generalize (unitsOfOne : Int) = one at hpos
  by_cases hu : 0 ≤ u
  · rw [Int.tdiv_eq_ediv_of_nonneg hu, ← Int.le_ediv_iff_mul_le hpos]
    have hquotient : 0 ≤ u / one := Int.ediv_nonneg hu (Int.le_of_lt hpos)
    omega
  · -- below zero nothing is left
    have hquotient : 0 ≤ (-u).tdiv one := Int.tdiv_nonneg (by omega) (Int.le_of_lt hpos)
    rw [Int.neg_tdiv] at hquotient
    have hproduct : 0 < (n : Int) * one := Int.mul_pos (by omega) hpos
    omega

/-- **The count made of a number is the greatest, up to the top, that the number is at least.** -/
theorem le_toNatSaturating_iff {top n : Nat} {x : Binary64} :
    n ≤ x.toNatSaturating top ↔ n = 0 ∨ n ≤ top ∧ x.AtLeast n := by
  by_cases hn : n = 0
  · rw [hn]
    exact iff_of_true (Nat.zero_le _) (.inl rfl)
  rw [or_iff_right hn]
  -- what is no number becomes zero, the infinities the two bounds
  cases x with
  | nan =>
    refine iff_of_false (fun h => hn (Nat.le_zero.mp h)) ?_
    rintro ⟨-, p, hp, -⟩
    cases hp
  | inf s =>
    cases s with
    | true =>
      refine iff_of_false (fun h => hn (Nat.le_zero.mp h)) ?_
      rintro ⟨-, p, hp, hle⟩
      cases hp
      cases hle
    | false => exact ⟨fun h => ⟨h, .top, rfl, rfl⟩, And.left⟩
  | finite s m e =>
    have hplace : (finite s m e).place? = some (.at (units s m e)) := rfl
    rw [atLeast_iff_of_place hplace, Place.at_isLE_iff, ← le_tdiv_iff hn]
    exact Nat.le_min

/-- A double that is a natural number is at least those that are not greater. -/
theorem Is.atLeast_iff {x : Binary64} {m n : Nat} (h : x.Is m) : x.AtLeast n ↔ n ≤ m := by
  rw [atLeast_iff_of_place h, Place.at_isLE_iff, one_mul_le_iff]

/-- A number that is a count is not changed. -/
theorem Is.toNatSaturating_eq {x : Binary64} {n top : Nat} (h : x.Is n) (hn : n ≤ top) :
    x.toNatSaturating top = n := by
  apply Nat.le_antisymm
  · obtain hzero | ⟨-, hleast⟩ := le_toNatSaturating_iff.mp (Nat.le_refl (x.toNatSaturating top))
    · omega
    · exact h.atLeast_iff.mp hleast
  · exact le_toNatSaturating_iff.mpr (.inr ⟨hn, h.atLeast_iff.mpr (Nat.le_refl n)⟩)

/-- The bound is not exceeded, whatever the double is. -/
theorem toNatSaturating_le (top : Nat) (x : Binary64) : x.toNatSaturating top ≤ top := by
  obtain hzero | ⟨hle, -⟩ := le_toNatSaturating_iff.mp (Nat.le_refl (x.toNatSaturating top))
  · omega
  · exact hle

/-- **The count made of a number is the number itself exactly for numbers that are counts;** of any
other number a count is made that it is not. -/
theorem toNatSaturating_eq_iff_is {top : Nat} {x : Binary64} :
    (∀ n ≤ top, n = x.toNatSaturating top ↔ x.Is n) ↔ ∃ n ≤ top, x.Is n := by
  constructor
  · intro h
    have hle := toNatSaturating_le top x
    exact ⟨_, hle, (h _ hle).mp rfl⟩
  · rintro ⟨m, hm, h⟩ n hn
    constructor
    · intro hcount
      rw [hcount, h.toNatSaturating_eq hm]
      exact h
    · intro hn'
      exact (hn'.toNatSaturating_eq hn).symm

/-- An integer of a document is the nearest double. -/
theorem is_ofInt {n : Nat} (h : n ≤ 2 ^ 53) : (ofInt n).Is n := by
  unfold Is
  rw [place?_ofInt (by omega), nearest_eq_self (by omega)]

end SuiteRunner.Binary64

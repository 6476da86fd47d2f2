import Mathlib
import SuiteRunner.Number.Binary64

/-!
  SuiteRunner.Proofs.Number.Rounding
  ────────────────────────────────
  **WHAT IS LEFT OF AN INTEGER IN A DOUBLE.**

  A double has 53 bits, so of a whole number with more than 53 the last ones are rounded away.
  Doubles near such a number lie `spacing` apart, and `nearest` is the one of them that stands for
  it, as a whole number again:

    • `Binary64.nearest_mono` — rounding keeps the order,
    • `Binary64.nearest_eq_self` — up to `2 ^ 53` nothing is lost,
    • `Binary64.nearest_ne_of_far` — 64-bit integers more than `2 ^ 11` apart stay apart,
    • `Binary64.compare?_ofInt` — **doubles made of integers are in the order of `nearest`.**
-/

namespace SuiteRunner.Binary64

/-! ## §1. Rounding to a whole number. -/

/-- Either the quotient is kept, and the remainder is at most half of the divisor, or it is
raised by one, and the remainder is at least half. -/
theorem roundHalfEven_cases (num den : Nat) :
    (roundHalfEven num den = num / den ∧ 2 * (num % den) ≤ den) ∨
    (roundHalfEven num den = num / den + 1 ∧ den ≤ 2 * (num % den)) := by
  unfold roundHalfEven
  by_cases habove : 2 * (num % den) > den
  · simp only [if_pos habove]
    right
    exact ⟨trivial, by omega⟩
  · by_cases htie : 2 * (num % den) = den
    · -- a tie goes to the even one of the two
      simp only [if_neg habove, if_pos htie]
      have := Nat.mod_two_eq_zero_or_one (num / den)
      omega
    · simp only [if_neg habove, if_neg htie]
      left
      exact ⟨trivial, by omega⟩

/-- The rounded quotient is off by at most half of the divisor. -/
theorem roundHalfEven_near (num : Nat) {den : Nat} (hden : 0 < den) :
    2 * (roundHalfEven num den * den) ≤ 2 * num + den ∧
    2 * num ≤ 2 * (roundHalfEven num den * den) + den := by
  have hdiv : den * (num / den) + num % den = num := Nat.div_add_mod num den
  have hmod : num % den < den := Nat.mod_lt num hden
  rcases roundHalfEven_cases num den with ⟨hq, hr⟩ | ⟨hq, hr⟩
  · rw [hq, Nat.mul_comm (num / den) den]
    omega
  · rw [hq, Nat.add_mul, Nat.one_mul, Nat.mul_comm (num / den) den]
    omega

/-- **Rounding keeps the order.** -/
theorem roundHalfEven_mono {a b : Nat} (den : Nat) (h : a ≤ b) :
    roundHalfEven a den ≤ roundHalfEven b den := by
  have hdiv : a / den ≤ b / den := Nat.div_le_div_right h
  by_cases heq : a / den = b / den
  · -- with equal quotients the remainders are in order, and they decide
    have hmod : a % den ≤ b % den := by
      have ha : den * (a / den) + a % den = a := Nat.div_add_mod a den
      have hb : den * (b / den) + b % den = b := Nat.div_add_mod b den
      rw [heq] at ha
      omega
    unfold roundHalfEven
    simp only [heq]
    split_ifs <;> omega
  · have ha := roundHalfEven_cases a den
    have hb := roundHalfEven_cases b den
    omega

/-- A whole number is not rounded. -/
theorem roundHalfEven_one (n : Nat) : roundHalfEven n 1 = n := by
  unfold roundHalfEven
  simp only [Nat.div_one, Nat.mod_one]
  rfl

/-- A multiple of the unit is that multiple. -/
theorem roundHalfEven_mul {den : Nat} (k : Nat) (hden : 0 < den) :
    roundHalfEven (k * den) den = k := by
  unfold roundHalfEven
  simp only [Nat.mul_div_cancel k hden, Nat.mul_mod_left]
  split_ifs <;> omega

/-! ## §2. The whole number that a double stands for. -/

/-- How far apart doubles are near a natural number, whole numbers only. -/
def spacing (n : Nat) : Nat := 2 ^ (n.log2 - 52)

/-- The natural number that the double nearest to a natural number is. -/
def nearestNat (n : Nat) : Nat := roundHalfEven n (spacing n) * spacing n

/-- The integer that the double nearest to an integer is. -/
def nearest (n : Int) : Int := if n < 0 then -nearestNat n.natAbs else nearestNat n.natAbs

theorem spacing_pos (n : Nat) : 0 < spacing n := Nat.two_pow_pos _

/-- Rounding to a multiple of the spacing is off by at most half of it. -/
theorem nearestNat_near (n : Nat) :
    2 * nearestNat n ≤ 2 * n + spacing n ∧ 2 * n ≤ 2 * nearestNat n + spacing n :=
  roundHalfEven_near n (spacing_pos n)

/-- A power of two that is not below the leading bit is a multiple of the spacing. -/
theorem pow_eq_mul_spacing {n k : Nat} (h : n.log2 ≤ k) :
    2 ^ k = 2 ^ (k - (n.log2 - 52)) * spacing n := by
  unfold spacing
  rw [← Nat.pow_add]
  congr 1
  omega

/-- A number that is at most a power of two is not rounded beyond it. -/
theorem nearestNat_le_pow {n k : Nat} (h : n.log2 ≤ k) (hn : n ≤ 2 ^ k) :
    nearestNat n ≤ 2 ^ k := by
  have hk := pow_eq_mul_spacing h
  have hq : roundHalfEven n (spacing n) ≤ 2 ^ (k - (n.log2 - 52)) := by
    rw [← roundHalfEven_mul (2 ^ (k - (n.log2 - 52))) (spacing_pos n), ← hk]
    exact roundHalfEven_mono _ hn
  rw [hk]
  exact Nat.mul_le_mul_right _ hq

/-- A number that is at least a power of two is not rounded below it. -/
theorem pow_le_nearestNat {n k : Nat} (h : n.log2 ≤ k) (hn : 2 ^ k ≤ n) :
    2 ^ k ≤ nearestNat n := by
  have hk := pow_eq_mul_spacing h
  have hq : 2 ^ (k - (n.log2 - 52)) ≤ roundHalfEven n (spacing n) := by
    rw [← roundHalfEven_mul (2 ^ (k - (n.log2 - 52))) (spacing_pos n), ← hk]
    exact roundHalfEven_mono _ hn
  rw [hk]
  exact Nat.mul_le_mul_right _ hq

theorem log2_mono {a b : Nat} (h : a ≤ b) : a.log2 ≤ b.log2 := by
  by_cases ha : a = 0
  · subst ha
    exact Nat.zero_le _
  · have hb : b ≠ 0 := by omega
    rw [Nat.le_log2 hb]
    exact Nat.le_trans (Nat.log2_self_le ha) h

/-- **The nearest doubles are in the order of the numbers,** within one stretch and across powers of
two. -/
theorem nearestNat_mono {a b : Nat} (h : a ≤ b) : nearestNat a ≤ nearestNat b := by
  have hlog := log2_mono h
  by_cases heq : a.log2 = b.log2
  · -- one spacing for both
    unfold nearestNat spacing
    rw [heq]
    exact Nat.mul_le_mul_right _ (roundHalfEven_mono _ h)
  · -- a power of two lies between them, and rounding does not cross it
    have hb : b ≠ 0 := by
      rintro rfl
      exact heq (by rw [Nat.le_zero.mp h])
    calc nearestNat a
        ≤ 2 ^ (a.log2 + 1) := nearestNat_le_pow (by omega) (Nat.le_of_lt Nat.lt_log2_self)
      _ ≤ 2 ^ b.log2 := Nat.pow_le_pow_right (by decide) (by omega)
      _ ≤ nearestNat b := pow_le_nearestNat (Nat.le_refl _) (Nat.log2_self_le hb)

/-- Numbers up to 2^53 are doubles themselves. -/
theorem nearestNat_eq_self {n : Nat} (h : n ≤ 2 ^ 53) : nearestNat n = n := by
  by_cases htop : n = 2 ^ 53
  · subst htop
    decide
  · by_cases hn : n = 0
    · subst hn
      rfl
    · have hlog : n.log2 < 53 := (Nat.log2_lt hn).mpr (by omega)
      have hspacing : spacing n = 1 := by
        unfold spacing
        rw [Nat.sub_eq_zero_of_le (by omega), Nat.pow_zero]
      unfold nearestNat
      rw [hspacing, roundHalfEven_one, Nat.mul_one]

/-- **Rounding keeps the order of integers,** if not strictly. -/
theorem nearest_mono {a b : Int} (h : a ≤ b) : nearest a ≤ nearest b := by
  unfold nearest
  by_cases hb : b < 0
  · have : nearestNat b.natAbs ≤ nearestNat a.natAbs := nearestNat_mono (by omega)
    rw [if_pos hb, if_pos (by omega)]
    omega
  · rw [if_neg hb]
    by_cases ha : a < 0
    · rw [if_pos ha]
      omega
    · have : nearestNat a.natAbs ≤ nearestNat b.natAbs := nearestNat_mono (by omega)
      rw [if_neg ha]
      omega

/-- **Up to `2 ^ 53` an integer is a double.** -/
theorem nearest_eq_self {n : Int} (h : n.natAbs ≤ 2 ^ 53) : nearest n = n := by
  unfold nearest
  rw [nearestNat_eq_self h]
  split_ifs <;> omega

/-- Doubles below 2^64 are at most 2^11 apart. -/
theorem spacing_le {n : Nat} (h : n < 2 ^ 64) : spacing n ≤ 2 ^ 11 := by
  have hlog : n.log2 ≤ 63 := by
    have := log2_mono (Nat.le_pred_of_lt h)
    rwa [show (Nat.pred (2 ^ 64)).log2 = 63 by decide] at this
  exact Nat.pow_le_pow_right (by decide) (by omega)

/-- An integer of 64 bits is off by at most `2 ^ 10`. -/
theorem nearest_near {n : Int} (h : n.natAbs < 2 ^ 64) :
    2 * nearest n ≤ 2 * n + 2 ^ 11 ∧ 2 * n ≤ 2 * nearest n + 2 ^ 11 := by
  have hnear := nearestNat_near n.natAbs
  have hspacing := spacing_le h
  unfold nearest
  split_ifs <;> omega

/-- **Integers of 64 bits that are more than `2 ^ 11` apart stay apart.** -/
theorem nearest_ne_of_far {a b : Int} (ha : a.natAbs < 2 ^ 64) (hb : b.natAbs < 2 ^ 64)
    (hfar : 2 ^ 11 < (a - b).natAbs) : nearest a ≠ nearest b := by
  have hna := nearest_near ha
  have hnb := nearest_near hb
  omega

-- exactly `2 ^ 11` apart, two ties meet at the even double between them
example : nearest 9223372036854778880 = nearest 9223372036854780928 := by decide

/-! ## §3. The double made of an integer. -/

/-- The exponent puts the 53rd bit from the left right before the point. -/
theorem exponentOf_one {m : Nat} (hm : m ≠ 0) : exponentOf m 1 = (m.log2 : Int) - 52 := by
  have hbits : 2 ^ m.log2 ≤ m := Nat.log2_self_le hm
  have hguess : (m.log2 : Int) - (Nat.log2 1 : Int) - 52 = (m.log2 : Int) - 52 := by
    rw [show Nat.log2 1 = 0 by decide]
    omega
  unfold exponentOf scaleDown
  simp only [hguess, Nat.pow_eq]
  -- the guess is right on either side: 53 bits are left
  by_cases h : (m.log2 : Int) - 52 ≥ 0
  · have hpow : 2 ^ 52 * (1 * 2 ^ ((m.log2 : Int) - 52).toNat) = 2 ^ m.log2 := by
      rw [Nat.one_mul, ← Nat.pow_add]
      congr 1
      omega
    simp only [if_pos h, hpow]
    rw [if_neg (by omega)]
  · have hpow : 2 ^ m.log2 * 2 ^ (-((m.log2 : Int) - 52)).toNat = 2 ^ 52 := by
      rw [← Nat.pow_add]
      congr 1
      omega
    have hle : 2 ^ 52 ≤ m * 2 ^ (-((m.log2 : Int) - 52)).toNat := by
      rw [← hpow]
      exact Nat.mul_le_mul_right _ hbits
    simp only [if_neg h]
    rw [if_neg (by omega)]

/-- How many places a double has behind the point. -/
def places : Nat := 1074

/-- The multiple of `2 ^ (-1074)` that the number one is. -/
def unitsOfOne : Nat := 2 ^ places

theorem unitsOfOne_pos : 0 < unitsOfOne := Nat.two_pow_pos places

theorem pow_mul_pow {i j k : Nat} (h : i + j = k + places) :
    2 ^ i * 2 ^ j = 2 ^ k * unitsOfOne := by
  unfold unitsOfOne
  rw [← Nat.pow_add, h, Nat.pow_add]

/-- The place of a finite number is its sign and its size. -/
theorem units_eq (neg : Bool) (q : Nat) (e : Int) :
    units neg q e = if neg then -((q * 2 ^ (e + 1074).toNat : Nat) : Int)
      else ((q * 2 ^ (e + 1074).toNat : Nat) : Int) := by
  unfold units
  rw [Int.natCast_mul, Int.natCast_pow]
  rfl

/-- The significand, put back to its place, is the rounded number. -/
theorem significand_eq (m : Nat) :
    roundHalfEven (scaleDown m 1 ((m.log2 : Int) - 52)).1 (scaleDown m 1 ((m.log2 : Int) - 52)).2
        * 2 ^ ((m.log2 : Int) - 52 + 1074).toNat
      = nearestNat m * unitsOfOne := by
  unfold scaleDown nearestNat spacing
  simp only [Nat.pow_eq]
  by_cases h : (m.log2 : Int) - 52 ≥ 0
  · have hexp : ((m.log2 : Int) - 52).toNat = m.log2 - 52 := by omega
    have hplace : 0 + ((m.log2 : Int) - 52 + 1074).toNat = m.log2 - 52 + places := by
      unfold places
      omega
    simp only [if_pos h, hexp, Nat.one_mul]
    rw [Nat.mul_assoc, ← pow_mul_pow hplace, Nat.pow_zero, Nat.one_mul]
  · -- fewer than 53 bits are moved to the left, and none is lost
    have hexp : (-((m.log2 : Int) - 52)).toNat + ((m.log2 : Int) - 52 + 1074).toNat
        = 0 + places := by
      unfold places
      omega
    have hspacing : m.log2 - 52 = 0 := by omega
    simp only [if_neg h, hspacing, roundHalfEven_one, Nat.pow_zero, Nat.mul_one]
    rw [Nat.mul_assoc, pow_mul_pow hexp, Nat.pow_zero, Nat.one_mul]

/-- Where the double made of a natural number lies. -/
theorem place?_ofRatio_one {m : Nat} (neg : Bool) (hm : m ≠ 0) (hsize : m.log2 ≤ 1022) :
    (ofRatio neg m 1).place?
      = some (.at (if neg then -((nearestNat m * unitsOfOne : Nat) : Int)
          else ((nearestNat m * unitsOfOne : Nat) : Int))) := by
  have hmax : max ((m.log2 : Int) - 52) (-1074) = (m.log2 : Int) - 52 := by omega
  have hplace := significand_eq m
  unfold ofRatio
  simp only [if_neg hm, exponentOf_one hm, hmax, Nat.pow_eq]
  generalize roundHalfEven _ _ = q at hplace ⊢
  by_cases hq : q = 2 ^ 53
  · -- the significand got a 54th bit, which goes to the exponent
    have hcarry : 2 ^ 52 * 2 ^ ((m.log2 : Int) - 52 + 1 + 1074).toNat
        = nearestNat m * unitsOfOne := by
      rw [← hplace, hq, ← Nat.pow_add, ← Nat.pow_add]
      congr 1
      omega
    simp only [if_pos hq]
    rw [if_neg (by omega), ← hcarry, ← units_eq]
    rfl
  · simp only [if_neg hq]
    rw [if_neg (by omega), ← hplace, ← units_eq]
    rfl

/-- **Where the double made of an integer lies:** at the nearest integer. -/
theorem place?_ofInt {n : Int} (h : n.natAbs < 2 ^ 64) :
    (ofInt n).place? = some (.at (nearest n * unitsOfOne)) := by
  unfold ofInt
  by_cases hn : n = 0
  · subst hn
    show some (Place.at (units false 0 (-1074))) = _
    rw [units_eq, nearest_eq_self (by decide), Nat.zero_mul, Int.zero_mul]
    rfl
  · have hm : n.natAbs ≠ 0 := by omega
    have hlog : n.natAbs.log2 < 64 := (Nat.log2_lt hm).mpr h
    rw [place?_ofRatio_one _ hm (by omega)]
    unfold nearest
    by_cases hneg : n < 0
    · rw [if_pos hneg, if_pos (decide_eq_true hneg), Int.natCast_mul, Int.neg_mul]
    · rw [if_neg hneg, if_neg (by rwa [decide_eq_true_eq]), Int.natCast_mul]

/-- **The order of doubles made of integers** is that of the nearest integers. -/
theorem compare?_ofInt {a b : Int} (ha : a.natAbs < 2 ^ 64) (hb : b.natAbs < 2 ^ 64) :
    (ofInt a).compare? (ofInt b) = some (compare (nearest a) (nearest b)) := by
  have hone : (0 : Int) < unitsOfOne := Int.natCast_pos.mpr unitsOfOne_pos
  unfold compare?
  rw [place?_ofInt ha, place?_ofInt hb]
  show some (compare (nearest a * (unitsOfOne : Int)) (nearest b * (unitsOfOne : Int))) = _
  generalize (unitsOfOne : Int) = one at hone
  rcases Int.lt_trichotomy (nearest a) (nearest b) with hlt | heq | hgt
  · rw [Int.compare_eq_lt.mpr hlt, Int.compare_eq_lt.mpr (Int.mul_lt_mul_of_pos_right hlt hone)]
  · rw [heq, Int.compare_eq_eq.mpr rfl, Int.compare_eq_eq.mpr rfl]
  · rw [Int.compare_eq_gt.mpr hgt, Int.compare_eq_gt.mpr (Int.mul_lt_mul_of_pos_right hgt hone)]

/-- **Integers are equal as doubles exactly if they have one nearest double.** -/
theorem equal_ofInt {a b : Int} (ha : a.natAbs < 2 ^ 64) (hb : b.natAbs < 2 ^ 64) :
    (ofInt a).equal (ofInt b) = true ↔ nearest a = nearest b := by
  unfold equal
  rw [compare?_ofInt ha hb, beq_iff_eq, Option.some.injEq, Int.compare_eq_eq]

/-- Their order is that of their nearest doubles. -/
theorem less_ofInt {a b : Int} (ha : a.natAbs < 2 ^ 64) (hb : b.natAbs < 2 ^ 64) :
    (ofInt a).less (ofInt b) = true ↔ nearest a < nearest b := by
  unfold less
  rw [compare?_ofInt ha hb, beq_iff_eq, Option.some.injEq, Int.compare_eq_lt]

end SuiteRunner.Binary64

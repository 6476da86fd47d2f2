import Mathlib.Algebra.Group.Nat.Defs
import SuiteRunner.Retry

/-!
  SuiteRunner.Proofs.Retry.Delays
  ────────────────────────────────
  **DELAYS GROW BY THEIR LAW AND STAY WITHIN 64 BITS.**

  A law of growth asks for a multiple of the base delay after each attempt (`Backoff.factor`).  The
  delay is that multiple or, if it takes more than 64 bits, the greatest number of 64 bits
  (`Capped`).  The same is true of a computation in machine words in which every step that could
  leave its word is checked, so that both come to the same number:

    • `Capped.unique`, `Capped.mono` — capped numbers are determined, and keep their order,
    • `RetryPolicy.delayAfter_capped` — a delay is a capped multiple of the base,
    • `Words.delayAfter?_capped` — so is what machine words make of it, and no step fails,
    • `RetryPolicy.delays_grow` — all of it for every policy and every attempt.
-/

namespace SuiteRunner

/-! ## §1. Numbers that stop at 64 bits. -/

/-- **A number as far as 64 bits go:** the number itself if it fits them, and the greatest one that
does if not. -/
structure Capped (full n : Nat) : Prop where
  fits : full < 2 ^ 64 → n = full
  exceeds : 2 ^ 64 ≤ full → n = 2 ^ 64 - 1

section

variable {d e m n : Nat}

theorem capped_self (h : n < 2 ^ 64) : Capped n n where
  fits := fun _ => rfl
  exceeds := fun hexceeds => absurd h (Nat.not_lt_of_le hexceeds)

/-- What is capped fits 64 bits. -/
theorem Capped.lt (h : Capped e n) : n < 2 ^ 64 := by
  by_cases hfits : e < 2 ^ 64
  · rw [h.fits hfits]
    exact hfits
  · rw [h.exceeds (Nat.le_of_not_lt hfits)]
    decide

/-- **A number is capped in one way.** -/
theorem Capped.unique (hm : Capped e m) (hn : Capped e n) : m = n := by
  by_cases hfits : e < 2 ^ 64
  · rw [hm.fits hfits, hn.fits hfits]
  · have hexceeds : 2 ^ 64 ≤ e := Nat.le_of_not_lt hfits
    rw [hm.exceeds hexceeds, hn.exceeds hexceeds]

/-- **Numbers keep their order.** -/
theorem Capped.mono (hle : d ≤ e) (hm : Capped d m) (hn : Capped e n) : m ≤ n := by
  by_cases hfits : e < 2 ^ 64
  · rw [hm.fits (Nat.lt_of_le_of_lt hle hfits), hn.fits hfits]
    exact hle
  · -- the greater number is the greatest one, whatever became of the other
    rw [hn.exceeds (Nat.le_of_not_lt hfits)]
    exact Nat.le_sub_one_of_lt hm.lt

theorem maxMillis_eq : maxMillis = 2 ^ 64 - 1 := rfl

/-- The bounded product is the product as far as 64 bits go. -/
theorem capped_boundedProduct (a b : Nat) : Capped (a * b) (boundedProduct a b) where
  fits := by
    intro hfits
    unfold boundedProduct
    rw [maxMillis_eq]
    exact Nat.min_eq_left (Nat.le_sub_one_of_lt hfits)
  exceeds := by
    intro hexceeds
    unfold boundedProduct
    rw [maxMillis_eq]
    exact Nat.min_eq_right (Nat.le_trans (Nat.sub_le _ _) hexceeds)

end

/-! ## §2. Laws of growth. -/

namespace Backoff

/-- How many times the base delay a law asks for after an attempt. -/
def factor : Backoff → Nat → Nat
  | .fixed, _ => 1
  | .linear, n => n
  | .exponential, n => 2 ^ min (n - 1) RetryPolicy.maxDoublings

/-- After the first attempt every law asks for the base delay. -/
theorem factor_one (law : Backoff) : law.factor 1 = 1 := by cases law <;> rfl

/-- **No law asks for less after a later attempt.** -/
theorem factor_mono (law : Backoff) {m n : Nat} (h : m ≤ n) : law.factor m ≤ law.factor n := by
  cases law with
  | fixed => exact Nat.le_refl 1
  | linear => exact h
  | exponential =>
    have hdoublings : min (m - 1) RetryPolicy.maxDoublings
        ≤ min (n - 1) RetryPolicy.maxDoublings := by omega
    exact Nat.pow_le_pow_right (by decide) hdoublings

/-- Sixteen doublings are those before the seventeenth attempt. -/
theorem factor_doubled {n : Nat} (h : n ≤ 17) : exponential.factor n = 2 ^ (n - 1) := by
  have hdoublings : n - 1 ≤ RetryPolicy.maxDoublings := by
    show n - 1 ≤ 16
    omega
  show 2 ^ min (n - 1) RetryPolicy.maxDoublings = _
  rw [Nat.min_eq_left hdoublings]

/-- A doubling law stays where it is from the seventeenth attempt on. -/
theorem factor_settled {n : Nat} (h : 17 ≤ n) :
    exponential.factor n = exponential.factor 17 := by
  have hdoublings : RetryPolicy.maxDoublings ≤ n - 1 := by
    show 16 ≤ n - 1
    omega
  show 2 ^ min (n - 1) RetryPolicy.maxDoublings = 2 ^ min 16 RetryPolicy.maxDoublings
  rw [Nat.min_eq_right hdoublings]
  rfl

end Backoff

/-- **A delay is a capped multiple of the base.** -/
theorem RetryPolicy.delayAfter_capped {p : RetryPolicy} (hdelay : p.delay < 2 ^ 64) (n : Nat) :
    Capped (p.delay * p.backoff.factor n) (p.delayAfter n) := by
  unfold delayAfter
  cases p.backoff with
  | fixed =>
    show Capped (p.delay * 1) p.delay
    rw [Nat.mul_one]
    exact capped_self hdelay
  | linear => exact capped_boundedProduct _ _
  | exponential => exact capped_boundedProduct _ _

/-! ## §3. Delays in machine words. -/

namespace Words

/-- The greatest word of 64 bits. -/
def greatest : UInt64 := 0xffffffffffffffff

/-- The product of two words, unless it is none. -/
def times? (a b : UInt64) : Option UInt64 :=
  if b = 0 ∨ a ≤ greatest / b then some (a * b) else none

/-- The word before, unless there is none. -/
def before? (n : UInt32) : Option UInt32 := if n = 0 then none else some (n - 1)

/-- A single bit moved to the left, unless it is moved out of the word. -/
def bit? (k : UInt32) : Option UInt64 := if k < 64 then some (1 <<< k.toUInt64) else none

/-- The product, or the greatest word in its place. -/
def cappedTimes (a b : UInt64) : UInt64 := (times? a b).getD greatest

/-- How often the base is doubled for the delay after an attempt. -/
def doublings (n : UInt32) : UInt32 :=
  let earlier := (before? n).getD 0
  if earlier ≤ 16 then earlier else 16

/-- **The delay after an attempt in machine words,** unless a word does not suffice on the way. -/
def delayAfter? (base : UInt64) : Backoff → UInt32 → Option UInt64
  | .fixed, _ => some base
  | .linear, n => some (cappedTimes base n.toUInt64)
  | .exponential, n => (bit? (doublings n)).map (cappedTimes base)

theorem toNat_greatest : greatest.toNat = 2 ^ 64 - 1 := rfl

/-- Division tells which products are words. -/
theorem times?_fits_iff (a b : UInt64) :
    b = 0 ∨ a ≤ greatest / b ↔ a.toNat * b.toNat < 2 ^ 64 := by
  by_cases hb : b = 0
  · have hzero : a.toNat * b.toNat < 2 ^ 64 := by
      subst hb
      show a.toNat * 0 < 2 ^ 64
      rw [Nat.mul_zero]
      decide
    exact ⟨fun _ => hzero, fun _ => .inl hb⟩
  · have hpos : 0 < b.toNat := by
      refine Nat.pos_of_ne_zero fun hzero => hb ?_
      exact UInt64.toNat_inj.mp hzero
    rw [or_iff_right hb, UInt64.le_iff_toNat_le, UInt64.toNat_div, Nat.le_div_iff_mul_le hpos,
      toNat_greatest]
    omega

/-- The product of two words is capped as that of their numbers. -/
theorem cappedTimes_capped (a b : UInt64) :
    Capped (a.toNat * b.toNat) (cappedTimes a b).toNat where
  fits := by
    intro hfits
    unfold cappedTimes times?
    rw [if_pos ((times?_fits_iff a b).mpr hfits), Option.getD_some, UInt64.toNat_mul,
      Nat.mod_eq_of_lt hfits]
  exceeds := by
    intro hexceeds
    have hfails := mt (times?_fits_iff a b).mp (Nat.not_lt_of_le hexceeds)
    unfold cappedTimes times?
    rw [if_neg hfails, Option.getD_none, toNat_greatest]

/-- The word before zero is zero here, as for numbers. -/
theorem toNat_before (n : UInt32) : ((before? n).getD 0).toNat = n.toNat - 1 := by
  unfold before?
  by_cases hzero : n = 0
  · subst hzero
    rfl
  · have hone : 1 ≤ n := by
      rw [UInt32.le_iff_toNat_le]
      refine Nat.pos_of_ne_zero fun h => hzero ?_
      exact UInt32.toNat_inj.mp h
    rw [if_neg hzero, Option.getD_some, UInt32.toNat_sub_of_le n 1 hone]
    rfl

/-- The doublings of the words are those of the numbers. -/
theorem toNat_doublings (n : UInt32) :
    (doublings n).toNat = min (n.toNat - 1) RetryPolicy.maxDoublings := by
  rw [← toNat_before]
  unfold doublings
  by_cases hfew : (before? n).getD 0 ≤ 16
  · rw [if_pos hfew]
    exact (Nat.min_eq_left (UInt32.le_iff_toNat_le.mp hfew)).symm
  · have hmany := mt UInt32.le_iff_toNat_le.mpr hfew
    rw [if_neg hfew]
    exact (Nat.min_eq_right (Nat.le_of_not_le hmany)).symm

/-- A bit that stays in the word is a power of two. -/
theorem exists_bit {k : UInt32} (hk : k.toNat < 64) :
    ∃ w, bit? k = some w ∧ w.toNat = 2 ^ k.toNat := by
  refine ⟨1 <<< k.toUInt64, if_pos (UInt32.lt_iff_toNat_lt.mpr hk), ?_⟩
  have hpow : 2 ^ k.toNat < 2 ^ 64 := Nat.pow_lt_pow_right (by decide) hk
  rw [UInt64.toNat_shiftLeft, UInt32.toNat_toUInt64, Nat.mod_eq_of_lt hk, Nat.shiftLeft_eq]
  show 1 * 2 ^ k.toNat % 2 ^ 64 = _
  rw [Nat.one_mul, Nat.mod_eq_of_lt hpow]

/-- **No step leaves its word, and the outcome is the capped multiple of the base.** -/
theorem delayAfter?_capped (base : UInt64) (law : Backoff) (n : UInt32) :
    ∃ w, delayAfter? base law n = some w ∧ Capped (base.toNat * law.factor n.toNat) w.toNat := by
  cases law with
  | fixed =>
    refine ⟨base, rfl, ?_⟩
    show Capped (base.toNat * 1) base.toNat
    rw [Nat.mul_one]
    exact capped_self base.toNat_lt
  | linear =>
    refine ⟨_, rfl, ?_⟩
    have hcapped := cappedTimes_capped base n.toUInt64
    rw [UInt32.toNat_toUInt64] at hcapped
    exact hcapped
  | exponential =>
    -- there are at most sixteen doublings, so the bit stays in the word
    have hfew : (doublings n).toNat < 64 := by
      rw [toNat_doublings]
      exact Nat.lt_of_le_of_lt (Nat.min_le_right _ _) (by decide)
    obtain ⟨power, hbit, hpower⟩ := exists_bit hfew
    refine ⟨cappedTimes base power, congrArg (Option.map _) hbit, ?_⟩
    have hcapped := cappedTimes_capped base power
    rw [hpower, toNat_doublings] at hcapped
    exact hcapped

/-- The greatest base and the greatest number of an attempt, and an attempt before the first. -/
example : delayAfter? greatest .linear 0xffffffff = some greatest ∧
    delayAfter? greatest .exponential 0xffffffff = some greatest ∧
    delayAfter? greatest .exponential 0 = some greatest ∧
    delayAfter? greatest .linear 0 = some 0 := by decide

end Words

/-! ## §4. Every policy and every attempt. -/

namespace RetryPolicy

/-- **DELAYS ARE SAFE, AND THEY GROW.**  Let the base delay be any number of 64 bits.  In machine
words, for every attempt numbered by 32 bits, no step of the computation leaves its word, and its
outcome is the delay.  After the first attempt the delay is the base, and no delay is greater than
that after a later attempt.  A fixed delay stays as it is; a linear one is the base times the number
of the attempt; an exponential one is the base doubled with each attempt up to the seventeenth, and
stays as it is from there on.  What does not fit 64 bits is the greatest number that does. -/
theorem delays_grow (p : RetryPolicy) (hdelay : p.delay < 2 ^ 64) :
    (∀ n : UInt32, ∃ w, Words.delayAfter? (.ofNat p.delay) p.backoff n = some w ∧
      w.toNat = p.delayAfter n.toNat) ∧
    p.delayAfter 1 = p.delay ∧
    (∀ m n, m ≤ n → p.delayAfter m ≤ p.delayAfter n) ∧
    (p.backoff = .fixed → ∀ n, p.delayAfter n = p.delay) ∧
    (p.backoff = .linear → ∀ n, Capped (p.delay * n) (p.delayAfter n)) ∧
    (p.backoff = .exponential →
      (∀ n ≤ 17, Capped (p.delay * 2 ^ (n - 1)) (p.delayAfter n)) ∧
      ∀ n ≥ 17, p.delayAfter n = p.delayAfter 17) := by
  -- all parts rest on this: the delay is the base times a factor, capped
  have hcapped := delayAfter_capped hdelay
  refine ⟨fun n => ?_, ?_, fun m n hle => ?_, fun hlaw n => ?_, fun hlaw n => ?_,
    fun hlaw => ⟨?_, ?_⟩⟩
  · obtain ⟨w, hw, hword⟩ := Words.delayAfter?_capped (.ofNat p.delay) p.backoff n
    rw [UInt64.toNat_ofNat_of_lt' hdelay] at hword
    exact ⟨w, hw, hword.unique (hcapped n.toNat)⟩
  · have hfirst := hcapped 1
    rw [Backoff.factor_one, Nat.mul_one] at hfirst
    exact hfirst.fits hdelay
  · have hmultiple := Nat.mul_le_mul_left p.delay (p.backoff.factor_mono hle)
    exact Capped.mono hmultiple (hcapped m) (hcapped n)
  · unfold delayAfter
    rw [hlaw]
  · have hlinear := hcapped n
    rw [hlaw] at hlinear
    exact hlinear
  · intro n hn
    have hdoubled := hcapped n
    rw [hlaw, Backoff.factor_doubled hn] at hdoubled
    exact hdoubled
  · intro n hn
    have hsettled := hcapped n
    rw [hlaw, Backoff.factor_settled hn, ← hlaw] at hsettled
    exact hsettled.unique (hcapped 17)

/-- A policy whose delays leave 64 bits after the fourth attempt. -/
def doubling : RetryPolicy := { delay := 2 ^ 60, backoff := .exponential }

theorem delays_grow_doubling :
    doubling.delay < 2 ^ 64 ∧ doubling.delayAfter 4 = 2 ^ 63 ∧
      ∀ n ≥ 5, doubling.delayAfter n = 2 ^ 64 - 1 := by
  have hdelay : doubling.delay < 2 ^ 64 := by decide
  obtain ⟨-, -, hmono, -, -, hgrows⟩ := delays_grow doubling hdelay
  obtain ⟨hdoubled, -⟩ := hgrows rfl
  have hfourth : doubling.delayAfter 4 = 2 ^ 63 := (hdoubled 4 (by decide)).fits (by decide)
  have hfifth : doubling.delayAfter 5 = 2 ^ 64 - 1 := (hdoubled 5 (by decide)).exceeds (by decide)
  refine ⟨hdelay, hfourth, fun n hn => ?_⟩
  have hleast := hmono 5 n hn
  rw [hfifth] at hleast
  have hmost : doubling.delayAfter n < 2 ^ 64 := (delayAfter_capped hdelay n).lt
  exact Nat.le_antisymm (Nat.le_sub_one_of_lt hmost) hleast

end RetryPolicy

end SuiteRunner

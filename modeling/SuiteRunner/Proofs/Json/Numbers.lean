import SuiteRunner.Json.Reading
import SuiteRunner.Json.Render

/-!
  SuiteRunner.Proofs.Json.Numbers
  ────────────────────────────────
  **AN INTEGER IS READ BACK.**

  The digits of a number have no zero in front and stand for the number, so a reader that collects
  them in 64 bits and goes on to no fraction or exponent finds the integer that was written.

    • `natOfDigits_toDigits` — the digits of a number stand for it,
    • `natOfText?_eq_some_iff` — bounded numbers are read from their numerals,
    • `growSignificand_digits` — digits that fit 64 bits are all taken,
    • `numberToken_int` — an integer is read back before all that does not go on with the number.
-/

namespace SuiteRunner

/-! ## §1. Digits. -/

theorem isDigit_of_char {c : Char} (h : c.isDigit = true) : isDigit c = true := by
  have hbounds : '0' ≤ c ∧ c ≤ '9' := by
    unfold Char.isDigit at h
    rw [Bool.and_eq_true, decide_eq_true_eq, decide_eq_true_eq] at h
    exact h
  unfold isDigit digitOf?
  rw [if_pos hbounds]
  rfl

/-- A digit stands for its distance from zero. -/
theorem digitOf_of_isDigit {c : Char} (h : isDigit c = true) :
    digitOf? c = some (c.toNat - '0'.toNat) := by
  unfold isDigit digitOf? at h
  unfold digitOf?
  by_cases hbounds : '0' ≤ c ∧ c ≤ '9'
  · rw [if_pos hbounds]
  · rw [if_neg hbounds] at h
    cases h

/-- The digits of a number. -/
def digitsOf (n : Nat) : List Char := Nat.toDigits 10 n

theorem toList_natText (n : Nat) : (toString n).toList = digitsOf n := by
  rw [Nat.toString_eq_ofList_toDigits, String.toList_ofList]
  rfl

theorem isDigit_of_mem_digitsOf {n : Nat} {c : Char} (h : c ∈ digitsOf n) : isDigit c = true :=
  isDigit_of_char (Nat.isDigit_of_mem_toDigits (by decide) (by decide) h)

theorem digitsOf_ne_nil (n : Nat) : digitsOf n ≠ [] := Nat.toDigits_ne_nil

/-- What digits stand for after others. -/
theorem foldl_digits (cs : List Char) (hcs : ∀ c ∈ cs, isDigit c = true) :
    ∀ start, cs.foldl (fun n c => 10 * n + (digitOf? c).getD 0) start
      = Nat.ofDigitChars 10 cs start := by
  induction cs with
  | nil => exact fun _ => rfl
  | cons c cs ih =>
    intro start
    have hc := digitOf_of_isDigit (hcs c List.mem_cons_self)
    rw [List.foldl_cons, hc, ih fun d hd => hcs d (List.mem_cons_of_mem _ hd)]
    rfl

/-- **The digits of a number stand for it.** -/
theorem natOfDigits_toDigits (n : Nat) : natOfDigits (digitsOf n) = n := by
  unfold natOfDigits
  rw [foldl_digits _ (fun _ hc => isDigit_of_mem_digitsOf hc)]
  exact Nat.ofDigitChars_toDigits (by decide) (by decide)

/-- **A numeral of a number:** digits that stand for it, with a plus sign in front or none. -/
def NumeralOf (n : Nat) (text : List Char) : Prop :=
  ∃ digits, digits ≠ [] ∧ (∀ c ∈ digits, isDigit c = true) ∧
    (text = digits ∨ text = '+' :: digits) ∧ natOfDigits digits = n

/-- **A natural number is written as a numeral of it.** -/
theorem numeralOf_natText (n : Nat) : NumeralOf n (toString n).toList :=
  ⟨digitsOf n, digitsOf_ne_nil n, fun _ hc => isDigit_of_mem_digitsOf hc,
    .inl (toList_natText n), natOfDigits_toDigits n⟩

/-- What is read is what follows a plus sign, or all if there is none. -/
theorem natOfText?_eq (top : Nat) (text : String) :
    ∃ digits, (text.toList = '+' :: digits ∨ text.toList = digits ∧ digits.head? ≠ some '+') ∧
      natOfText? top text = if digits.isEmpty || !digits.all isDigit then none
        else if natOfDigits digits ≤ top then some (natOfDigits digits) else none := by
  unfold natOfText?
  split
  case h_1 digits htext => exact ⟨digits, .inl htext, rfl⟩
  case h_2 hsign =>
    refine ⟨text.toList, .inr ⟨rfl, ?_⟩, rfl⟩
    intro hhead
    obtain ⟨rest, hrest⟩ := List.head?_eq_some_iff.mp hhead
    exact hsign rest hrest

/-- **A bounded number is read from its numerals and from nothing else.** -/
theorem natOfText?_eq_some_iff {top n : Nat} {text : String} :
    natOfText? top text = some n ↔ NumeralOf n text.toList ∧ n ≤ top := by
  obtain ⟨digits, htext, hread⟩ := natOfText?_eq top text
  rw [hread]
  constructor
  · intro h
    split at h
    · cases h
    · rename_i hdigits
      split at h
      · rename_i htop
        cases h
        simp only [Bool.or_eq_true, List.isEmpty_iff, Bool.not_eq_true', Bool.not_eq_false,
          not_or, List.all_eq_true] at hdigits
        exact ⟨⟨digits, hdigits.1, hdigits.2, htext.symm.imp_left And.left, rfl⟩, htop⟩
      · cases h
  · rintro ⟨⟨ds, hne, hds, hshape, rfl⟩, htop⟩
    -- a digit is no plus sign, so both cut the text in the same way
    have hplus : ds.head? ≠ some '+' := by
      intro hhead
      exact absurd (hds '+' (List.mem_of_head? hhead)) (by decide)
    have hsame : digits = ds := by
      rcases htext with htext | ⟨htext, hsign⟩ <;> rcases hshape with hshape | hshape <;>
        rw [hshape] at htext
      · exact absurd (htext ▸ rfl) hplus
      · exact (List.cons.inj htext).2.symm
      · exact htext.symm
      · exact absurd (htext ▸ rfl) hsign
    subst hsame
    have hdigits : ¬(digits.isEmpty || !digits.all isDigit) = true := by
      simp [hne, List.all_eq_true.mpr hds]
    rw [if_neg hdigits, if_pos htop]

/-- What is not read is no numeral, or one of a number beyond the bound. -/
theorem natOfText?_eq_none_iff {top : Nat} {text : String} :
    natOfText? top text = none ↔ ¬∃ n ≤ top, NumeralOf n text.toList := by
  rw [Option.eq_none_iff_forall_ne_some, not_exists]
  refine forall_congr' fun n => not_congr ?_
  rw [natOfText?_eq_some_iff, and_comm]

/-- No number but zero begins with a zero. -/
theorem head_digitsOf (n : Nat) (hn : 0 < n) : (digitsOf n).head? ≠ some '0' := by
  -- on the number without its last digit
  induction n using Nat.strongRecOn with
  | ind n ih =>
    unfold digitsOf
    by_cases hsmall : n < 10
    · have hdigit : ∀ m < 10, 0 < m → m.digitChar ≠ '0' := by decide
      rw [Nat.toDigits_of_lt_base hsmall]
      exact fun h => hdigit n hsmall hn (Option.some.inj h)
    · rw [Nat.toDigits_of_base_le (by decide) (by omega)]
      have hfront := ih (n / 10) (by omega) (by omega)
      obtain ⟨c, ds, hds⟩ := List.exists_cons_of_ne_nil (digitsOf_ne_nil (n / 10))
      unfold digitsOf at hfront hds
      rw [hds] at hfront ⊢
      exact hfront

/-- A zero in front is the only digit. -/
theorem length_of_head_zero {n : Nat} (h : (digitsOf n).head? = some '0') :
    (digitsOf n).length = 1 := by
  cases n with
  | zero => rfl
  | succ n => exact absurd h (head_digitsOf (n + 1) (Nat.succ_pos n))

namespace Reading

/-! ## §2. Numbers. -/

/-- More digits do not make a number less. -/
theorem le_foldl_digits (cs : List Char) :
    ∀ start, start ≤ cs.foldl (fun n c => 10 * n + (digitOf? c).getD 0) start := by
  induction cs with
  | nil => exact fun start => Nat.le_refl start
  | cons c cs ih =>
    intro start
    exact Nat.le_trans (by omega) (ih (10 * start + (digitOf? c).getD 0))

/-- **Digits that fit 64 bits are all taken.** -/
theorem growSignificand_digits (cs : List Char) :
    ∀ start, cs.foldl (fun n c => 10 * n + (digitOf? c).getD 0) start ≤ significandTop →
      growSignificand start cs
        = (cs.foldl (fun n c => 10 * n + (digitOf? c).getD 0) start, cs.length) := by
  induction cs with
  | nil => exact fun _ _ => rfl
  | cons c cs ih =>
    intro start htop
    have hnext : ¬(10 * start + (digitOf? c).getD 0 > significandTop) := by
      have hle := le_foldl_digits cs (10 * start + (digitOf? c).getD 0)
      rw [List.foldl_cons] at htop
      omega
    unfold growSignificand
    rw [if_neg hnext, ih _ htop]
    rfl

/-- **A text that does not go on with a number.** -/
def EndsNumber (rest : List Char) : Prop :=
  ∀ c, rest.head? = some c → isDigit c = false ∧ c ≠ '.' ∧ c ≠ 'e' ∧ c ≠ 'E'

/-- The digits of a number are all that stand before what ends it. -/
theorem takeWhile_digits {ds rest : List Char} (hds : ∀ c ∈ ds, isDigit c = true)
    (hrest : EndsNumber rest) :
    (ds ++ rest).takeWhile isDigit = ds ∧ (ds ++ rest).dropWhile isDigit = rest := by
  have hnone : rest.takeWhile isDigit = [] ∧ rest.dropWhile isDigit = rest := by
    cases rest with
    | nil => exact ⟨rfl, rfl⟩
    | cons c rest =>
      have hc := (hrest c rfl).1
      exact ⟨List.takeWhile_cons_of_neg (by rw [hc]; decide),
        List.dropWhile_cons_of_neg (by rw [hc]; decide)⟩
  rw [List.takeWhile_append_of_pos hds, List.dropWhile_append_of_pos hds, hnone.1, hnone.2,
    List.append_nil]
  exact ⟨rfl, rfl⟩

/-- The digits of a number after its sign. -/
theorem readNumber_digits (neg : Bool) {n : Nat} (hn : n ≤ significandTop) {rest : List Char}
    (hrest : EndsNumber rest) :
    readNumber neg (digitsOf n ++ rest)
      = if !neg then .ok (.int n, rest)
        else if 1 ≤ n ∧ n ≤ 0x8000000000000000 then .ok (.int (-(n : Int)), rest)
        else .ok (.float ((Binary64.ofRatio false n 1).neg), rest) := by
  obtain ⟨htake, hdrop⟩ :=
    takeWhile_digits (fun c hc => isDigit_of_mem_digitsOf (n := n) hc) hrest
  have hvalue := natOfDigits_toDigits n
  -- the digits are all taken, and they are those of the number
  have hgrow : growSignificand 0 (digitsOf n) = (n, (digitsOf n).length) := by
    have hfold : (digitsOf n).foldl (fun n c => 10 * n + (digitOf? c).getD 0) 0 = n := hvalue
    rw [growSignificand_digits _ 0 (by rw [hfold]; exact hn), hfold]
  obtain ⟨c, ds, hds⟩ := List.exists_cons_of_ne_nil (digitsOf_ne_nil n)
  have hc : isDigit c = true := isDigit_of_mem_digitsOf (n := n) (hds ▸ List.mem_cons_self)
  -- a number of more than one digit does not begin with zero
  have hzero : ¬(c = '0' ∧ (digitsOf n).length > 1) := by
    rintro ⟨rfl, hlong⟩
    have hone := length_of_head_zero (n := n) (by rw [hds]; rfl)
    omega
  have hcons : digitsOf n ++ rest = c :: (ds ++ rest) := by rw [hds]; rfl
  have hall : (digitsOf n).length - (digitsOf n).length = (0 : Int) := Int.sub_self _
  rw [hcons] at htake hdrop ⊢
  unfold readNumber
  dsimp only
  rw [htake, hdrop, hgrow, if_neg (by rw [hc]; decide), if_neg hzero]
  dsimp only
  rw [hall]
  -- what follows begins neither a fraction nor an exponent
  split
  · exact absurd rfl (hrest '.' rfl).2.1
  · exact absurd rfl (hrest 'e' rfl).2.2.1
  · exact absurd rfl (hrest 'E' rfl).2.2.2
  · rw [if_neg (Int.lt_irrefl 0)]

/-- An integer of 64 bits, signed or unsigned. -/
def Fits (n : Int) : Prop := -0x8000000000000000 ≤ n ∧ n ≤ 0xffffffffffffffff

/-- The text of an integer: a sign if it is negative, and digits. -/
theorem toList_intText (n : Int) :
    (toString n).toList = if n < 0 then '-' :: digitsOf n.natAbs else digitsOf n.natAbs := by
  cases n with
  | ofNat n => exact toList_natText n
  | negSucc n =>
    rw [if_pos (Int.negSucc_lt_zero n)]
    show ("-" ++ toString (n + 1)).toList = _
    rw [String.toList_append, toList_natText]
    rfl

theorem natAbs_le_top {n : Int} (hn : Fits n) : n.natAbs ≤ significandTop := by
  obtain ⟨hlow, hhigh⟩ := hn
  unfold significandTop
  omega

/-- The first character of an integer. -/
theorem head_intText (n : Int) :
    ∃ c cs, (toString n).toList = c :: cs ∧ (c = '-' ∨ isDigit c = true) := by
  rw [toList_intText]
  by_cases hneg : n < 0
  · rw [if_pos hneg]
    exact ⟨'-', _, rfl, .inl rfl⟩
  · obtain ⟨c, ds, hds⟩ := List.exists_cons_of_ne_nil (digitsOf_ne_nil n.natAbs)
    rw [if_neg hneg, hds]
    exact ⟨c, ds, rfl, .inr (isDigit_of_mem_digitsOf (hds ▸ List.mem_cons_self))⟩

/-- **An integer is read back.** -/
theorem numberToken_int {n : Int} (hn : Fits n) {rest : List Char} (hrest : EndsNumber rest) :
    numberToken ((toString n).toList ++ rest) = .read (.ok (.int n)) rest := by
  have htop := natAbs_le_top hn
  rw [toList_intText]
  by_cases hneg : n < 0
  · have hbounds : 1 ≤ n.natAbs ∧ n.natAbs ≤ 0x8000000000000000 := by
      have hlow := hn.1
      omega
    have hvalue : -(n.natAbs : Int) = n := by omega
    rw [if_pos hneg]
    show Token.of (readNumber true (digitsOf n.natAbs ++ rest)) _ = _
    rw [readNumber_digits true htop hrest, if_neg (by decide), if_pos hbounds, hvalue]
    rfl
  · have hvalue : (n.natAbs : Int) = n := by omega
    rw [if_neg hneg]
    -- without a sign the first character is a digit
    have htoken : numberToken (digitsOf n.natAbs ++ rest)
        = Token.of (readNumber false (digitsOf n.natAbs ++ rest))
            (skipNumber (digitsOf n.natAbs ++ rest)) := by
      obtain ⟨c, ds, hds⟩ := List.exists_cons_of_ne_nil (digitsOf_ne_nil n.natAbs)
      have hc : isDigit c = true := isDigit_of_mem_digitsOf (hds ▸ List.mem_cons_self)
      have hsign : c ≠ '-' := fun h => absurd (h ▸ hc) (by decide)
      rw [hds]
      unfold numberToken
      split
      · next heq => exact absurd (List.cons.inj heq).1 hsign
      · rfl
    rw [htoken, readNumber_digits false htop hrest, if_pos (by decide), hvalue]
    rfl

end Reading

end SuiteRunner

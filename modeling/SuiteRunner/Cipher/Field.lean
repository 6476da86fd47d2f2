/-!
  SuiteRunner.Cipher.Field
  ────────────────────────────────
  **BYTES AS ELEMENTS OF THE FIELD WITH 256 ELEMENTS.**

  A byte is a polynomial over the field with two elements, taken modulo x⁸ + x⁴ + x³ + x + 1.
  The substitution of the block cipher is inversion in this field followed by an affine map of the
  bits.
-/

namespace SuiteRunner.Cipher

/-- A byte times x. -/
def double (b : UInt8) : UInt8 := if b < 0x80 then b <<< 1 else (b <<< 1) ^^^ 0x1b

/-- The product of two bytes, the second taken bit by bit from the lowest on. -/
def timesFrom : Nat → UInt8 → UInt8 → UInt8
  | 0, _, _ => 0
  | n + 1, a, b => (if b &&& 1 = 1 then a else 0) ^^^ timesFrom n (double a) (b >>> 1)

/-- The product of two bytes. -/
def times (a b : UInt8) : UInt8 := timesFrom 8 a b

/-- A power of a byte. -/
def power (a : UInt8) : Nat → UInt8
  | 0 => 1
  | n + 1 => times a (power a n)

/-- The inverse of a byte; zero for zero.  The 255th power of any other byte is one. -/
def inverse (a : UInt8) : UInt8 := power a 254

/-- The bits of a byte moved round to the left. -/
def rotate (b : UInt8) (n : UInt8) : UInt8 := (b <<< n) ||| (b >>> (8 - n))

/-- What the substitution puts in the place of a byte. -/
def substituted (a : UInt8) : UInt8 :=
  let b := inverse a
  b ^^^ rotate b 1 ^^^ rotate b 2 ^^^ rotate b 3 ^^^ rotate b 4 ^^^ 0x63

/-- The substitution of all bytes in order. -/
def substitution : Array UInt8 := Array.ofFn fun i : Fin 256 => substituted (UInt8.ofNat i)

/-- The substitution, looked up. -/
def substitute (a : UInt8) : UInt8 := substitution.getD a.toNat 0

end SuiteRunner.Cipher

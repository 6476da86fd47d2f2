/-!
  SuiteRunner.Number.Binary64
  ────────────────────────────────
  **THE DOUBLE-PRECISION NUMBERS, EXACTLY.**

  A finite double is a sign, a significand below `2 ^ 53` and a binary exponent that is never
  below `-1074`.  Every finite double is therefore a whole multiple of `2 ^ (-1074)`; that
  multiple is `units`, and order, sums and products are defined through it on integers.  The one
  place where precision is lost is `ofRatio`, which rounds a quotient of natural numbers to the
  nearest double, a tie going to the even significand.
-/

namespace SuiteRunner

/-- A double-precision number.  A finite one stands for `± mant * 2 ^ exp` and is built by
`Binary64.ofRatio` only, which keeps `mant < 2 ^ 53`, `-1074 ≤ exp ≤ 971`, and `2 ^ 52 ≤ mant`
unless `exp = -1074`. -/
inductive Binary64 where
  | nan
  | inf (neg : Bool)
  | finite (neg : Bool) (mant : Nat) (exp : Int)
  deriving DecidableEq, Repr

namespace Binary64

/-! ## §1. Rounding a quotient. -/

/-- Zero with a sign. -/
def zero (neg : Bool) : Binary64 := .finite neg 0 (-1074)

instance : Inhabited Binary64 := ⟨zero false⟩

/-- The whole number nearest to `num / den`, a tie going to the even one. -/
def roundHalfEven (num den : Nat) : Nat :=
  let q := num / den
  let r := num % den
  if 2 * r > den then q + 1
  else if 2 * r = den then q + q % 2
  else q

/-- `num / den` divided by `2 ^ e`, again as a quotient. -/
def scaleDown (num den : Nat) (e : Int) : Nat × Nat :=
  if e ≥ 0 then (num, den * Nat.pow 2 e.toNat) else (num * Nat.pow 2 (-e).toNat, den)

/-- The exponent `e` for which `num / den / 2 ^ e` has 53 bits before the point. -/
def exponentOf (num den : Nat) : Int :=
  let guess : Int := (Nat.log2 num : Int) - (Nat.log2 den : Int) - 52
  let (n, d) := scaleDown num den guess
  if n < Nat.pow 2 52 * d then guess - 1 else guess

/-- The double nearest to `± num / den`; beyond the largest double it is infinite. -/
def ofRatio (neg : Bool) (num den : Nat) : Binary64 :=
  if num = 0 then zero neg
  else
    let e := max (exponentOf num den) (-1074)
    let (n, d) := scaleDown num den e
    let q := roundHalfEven n d
    let (q, e) := if q = Nat.pow 2 53 then (Nat.pow 2 52, e + 1) else (q, e)
    if e > 971 then .inf neg else .finite neg q e

/-- The double nearest to an integer. -/
def ofInt (n : Int) : Binary64 := ofRatio (decide (n < 0)) n.natAbs 1

/-- The double nearest to `± m * 10 ^ e`. -/
def ofScientific (neg : Bool) (m : Nat) (e : Int) : Binary64 :=
  if m = 0 then zero neg
  else if e ≥ 0 then
    if e > 400 then .inf neg else ofRatio neg (m * Nat.pow 10 e.toNat) 1
  else if (-e) > (400 + (Nat.log2 m : Int)) then zero neg
  else ofRatio neg m (Nat.pow 10 (-e).toNat)

/-! ## §2. Order. -/

/-- The multiple of `2 ^ (-1074)` that a finite number is. -/
def units (neg : Bool) (mant : Nat) (exp : Int) : Int :=
  let size : Int := (mant : Int) * Int.pow 2 (exp + 1074).toNat
  if neg then -size else size

/-- Numbers on the extended line; `nan` has no place on it. -/
inductive Place where
  | bottom
  | at (units : Int)
  | top
  deriving DecidableEq, Repr

/-- Where a number lies, if it does. -/
def place? : Binary64 → Option Place
  | .nan => none
  | .inf true => some .bottom
  | .inf false => some .top
  | .finite s m e => some (.at (units s m e))

/-- The order of places. -/
def Place.compare : Place → Place → Ordering
  | .bottom, .bottom => .eq
  | .bottom, _ => .lt
  | .top, .top => .eq
  | .top, _ => .gt
  | .at _, .bottom => .gt
  | .at _, .top => .lt
  | .at a, .at b => Ord.compare a b

/-- The order of two numbers, absent when one of them is `nan`. -/
def compare? (a b : Binary64) : Option Ordering :=
  match a.place?, b.place? with
  | some p, some q => some (p.compare q)
  | _, _ => none

/-- Equality as numbers: `nan` equals nothing, the two zeros are equal. -/
def equal (a b : Binary64) : Bool := compare? a b == some .eq

/-- Strict order as numbers. -/
def less (a b : Binary64) : Bool := compare? a b == some .lt

/-- Order as numbers, ties allowed. -/
def lessEq (a b : Binary64) : Bool := less a b || equal a b

/-! ## §3. Arithmetic. -/

/-- The sign bit; a `nan` counts as positive. -/
def isNeg : Binary64 → Bool
  | .nan => false
  | .inf s => s
  | .finite s _ _ => s

/-- Whether the number is a zero of either sign. -/
def isZero : Binary64 → Bool
  | .finite _ m _ => m == 0
  | _ => false

/-- Whether the number is finite. -/
def isFinite : Binary64 → Bool
  | .finite .. => true
  | _ => false

/-- Change of sign. -/
def neg : Binary64 → Binary64
  | .nan => .nan
  | .inf s => .inf !s
  | .finite s m e => .finite (!s) m e

/-- The sum; of two opposite finite numbers it is the positive zero. -/
def add : Binary64 → Binary64 → Binary64
  | .nan, _ => .nan
  | _, .nan => .nan
  | .inf s, .inf t => if s == t then .inf s else .nan
  | .inf s, _ => .inf s
  | _, .inf t => .inf t
  | .finite s m e, .finite t k f =>
    let sum := units s m e + units t k f
    if sum = 0 then zero (s && t && m == 0 && k == 0)
    else ofRatio (decide (sum < 0)) sum.natAbs (Nat.pow 2 1074)

/-- The difference. -/
def sub (a b : Binary64) : Binary64 := add a b.neg

/-- The product. -/
def mul : Binary64 → Binary64 → Binary64
  | .nan, _ => .nan
  | _, .nan => .nan
  | .inf s, b => if b.isZero then .nan else .inf (s != b.isNeg)
  | a, .inf t => if a.isZero then .nan else .inf (a.isNeg != t)
  | .finite s m e, .finite t k f =>
    ofRatio (s != t) ((units s m e).natAbs * (units t k f).natAbs) (Nat.pow 2 2148)

/-- The quotient; a non-zero number over a zero is infinite. -/
def div : Binary64 → Binary64 → Binary64
  | .nan, _ => .nan
  | _, .nan => .nan
  | .inf _, .inf _ => .nan
  | .inf s, b => .inf (s != b.isNeg)
  | a, .inf t => zero (a.isNeg != t)
  | .finite s m e, .finite t k f =>
    if k = 0 then (if m = 0 then .nan else .inf (s != t))
    else ofRatio (s != t) (units s m e).natAbs (units t k f).natAbs

/-- The remainder that has the sign of the first operand. -/
def rem : Binary64 → Binary64 → Binary64
  | .nan, _ => .nan
  | _, .nan => .nan
  | .inf _, _ => .nan
  | a, .inf _ => a
  | .finite s m e, .finite t k f =>
    if k = 0 then .nan
    else ofRatio s ((units s m e).natAbs % (units t k f).natAbs) (Nat.pow 2 1074)

/-! ## §4. Whole numbers and bits. -/

/-- Whether the number is a whole number. -/
def isWhole : Binary64 → Bool
  | .finite s m e => (units s m e).emod (Int.pow 2 1074) == 0
  | _ => false

/-- The part before the point of a finite number, toward zero. -/
def trunc? : Binary64 → Option Int
  | .finite s m e => some ((units s m e).tdiv (Int.pow 2 1074))
  | _ => none

/-- Conversion to a natural number at most `top`: toward zero, with both ends saturating and
`nan` going to zero. -/
def toNatSaturating (top : Nat) : Binary64 → Nat
  | .nan => 0
  | .inf s => if s then 0 else top
  | .finite s m e => min top ((units s m e).tdiv (Int.pow 2 1074)).toNat

/-- Round to a whole number by `step`, which sees the number in units of `2 ^ (-1074)`; the sign
of a zero result is that of the number. -/
def roundBy (step : Int → Int) : Binary64 → Binary64
  | .finite s m e =>
    let n := step (units s m e)
    if n = 0 then zero s else ofInt n
  | a => a

/-- The greatest whole number not above. -/
def floor : Binary64 → Binary64 := roundBy (fun u => u.fdiv (Int.pow 2 1074))

/-- The least whole number not below. -/
def ceil : Binary64 → Binary64 := roundBy (fun u => -((-u).fdiv (Int.pow 2 1074)))

/-- The nearest whole number, a half going up. -/
def roundHalfUp : Binary64 → Binary64 := roundBy (fun u => (u + Int.pow 2 1073).fdiv (Int.pow 2 1074))

/-- The bit pattern in the interchange format. -/
def toBits : Binary64 → Nat
  | .nan => 0x7ff8 * Nat.pow 2 48
  | .inf s => s.toNat * Nat.pow 2 63 + 0x7ff * Nat.pow 2 52
  | .finite s m e =>
    let body :=
      if m < Nat.pow 2 52 then m
      else (e + 1075).toNat * Nat.pow 2 52 + (m - Nat.pow 2 52)
    s.toNat * Nat.pow 2 63 + body

end Binary64

end SuiteRunner

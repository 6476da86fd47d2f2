import SuiteRunner.Number.Binary64

/-!
  SuiteRunner.Number.Shortest
  ────────────────────────────────
  **THE FEWEST DECIMAL DIGITS THAT READ BACK.**

  The decimals that round to a given double form an interval.  `shortest` takes the coarsest
  decimal grid with a point inside it, and of the two neighbours of the number on that grid the
  nearer one.  Two printers lay such digits out: `positional` never uses an exponent, and
  `scientificOutside` turns to `1e-7` and `1e+16` outside a band of exponents.
-/

namespace SuiteRunner.Binary64

/-- A positive decimal `digits * 10 ^ exp`. -/
structure Decimal where
  digits : Nat
  exp : Int
  deriving DecidableEq, Repr

/-- The number of decimal digits of a number; none for zero. -/
def decimalLength (n : Nat) : Nat := if n = 0 then 0 else (Nat.toDigits 10 n).length

/-- The power of ten of the first digit of `num / den`. -/
def leadingPower (num den : Nat) : Int :=
  if num ≥ den then (decimalLength (num / den) : Int) - 1
  else -((decimalLength ((den - 1) / num) : Nat) : Int)

/-- Trailing zeros move into the exponent. -/
def Decimal.strip (fuel : Nat) (d : Decimal) : Decimal :=
  match fuel with
  | 0 => d
  | n + 1 =>
    if d.digits ≠ 0 ∧ d.digits % 10 = 0 then Decimal.strip n ⟨d.digits / 10, d.exp + 1⟩ else d

/-- The neighbour of `m * 2 ^ e` with `n` digits that still rounds to it, if there is one.  All is
counted in quarters of the last place, so that the ends of the interval are whole. -/
def onGrid? (m : Nat) (e : Int) (lead : Int) (n : Nat) : Option Decimal :=
  let k := lead + 1 - n
  let q := e - 2
  let a := Nat.pow 2 q.toNat * Nat.pow 10 (-k).toNat
  let b := Nat.pow 10 k.toNat * Nat.pow 2 (-q).toNat
  let lowGap := if m = Nat.pow 2 52 ∧ e > -1074 then 1 else 2
  let v := 4 * m * a
  let lo := (4 * m - lowGap) * a
  let hi := (4 * m + 2) * a
  let closed := m % 2 == 0
  let fits (c : Nat) : Bool :=
    let x := c * b
    if closed then lo ≤ x && x ≤ hi else lo < x && x < hi
  let c := v / b
  let below := v - c * b
  let above := (c + 1) * b - v
  match c ≠ 0 && fits c, fits (c + 1) with
  | true, true =>
    if below < above || (below == above && c % 2 == 0) then some ⟨c, k⟩ else some ⟨c + 1, k⟩
  | true, false => some ⟨c, k⟩
  | false, true => some ⟨c + 1, k⟩
  | false, false => none

/-- The shortest decimal that rounds to the positive number `m * 2 ^ e`. -/
def shortest (m : Nat) (e : Int) : Decimal :=
  let lead := if e ≥ 0 then leadingPower (m * Nat.pow 2 e.toNat) 1
    else leadingPower m (Nat.pow 2 (-e).toNat)
  let grids := (List.range 17).filterMap (fun i => onGrid? m e lead (i + 1))
  match grids with
  | d :: _ => Decimal.strip 20 d
  | [] => ⟨m, e⟩

/-- The text of a positive decimal without an exponent; `tail` follows a whole number. -/
def Decimal.positional (d : Decimal) (tail : String) : String :=
  let ds := Nat.toDigits 10 d.digits
  if d.exp ≥ 0 then String.ofList (ds ++ List.replicate d.exp.toNat '0') ++ tail
  else
    let places := (-d.exp).toNat
    if ds.length > places then
      String.ofList (ds.take (ds.length - places) ++ '.' :: ds.drop (ds.length - places))
    else
      String.ofList ('0' :: '.' :: (List.replicate (places - ds.length) '0' ++ ds))

/-- The text of a positive decimal with an exponent, which always bears a sign. -/
def Decimal.scientific (d : Decimal) : String :=
  let ds := Nat.toDigits 10 d.digits
  let power : Int := d.exp + ds.length - 1
  let head := match ds with
    | [] => ""
    | [c] => String.ofList [c]
    | c :: rest => String.ofList (c :: '.' :: rest)
  let sign := if power < 0 then "-" else "+"
  head ++ "e" ++ sign ++ toString power.natAbs

/-- The text of a double in documents: positional from `1e-5` up to but not including `1e16`,
with `.0` after a whole number. -/
def documentText : Binary64 → String
  | .nan => "null"
  | .inf _ => "null"
  | .finite s m e =>
    let sign := if s then "-" else ""
    if m = 0 then sign ++ "0.0"
    else
      let d := shortest m e
      let power : Int := d.exp + (decimalLength d.digits : Int) - 1
      sign ++ (if -5 ≤ power ∧ power < 16 then d.positional ".0" else d.scientific)

/-- The text of a double in running text: always positional, a whole number without a point. -/
def plainText : Binary64 → String
  | .nan => "NaN"
  | .inf s => if s then "-inf" else "inf"
  | .finite s m e =>
    let sign := if s then "-" else ""
    if m = 0 then sign ++ "0" else sign ++ (shortest m e).positional ""

end SuiteRunner.Binary64

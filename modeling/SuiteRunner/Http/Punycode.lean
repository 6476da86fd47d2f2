/-!
  SuiteRunner.Http.Punycode
  ────────────────────────────────
  **NAMES OF HOSTS IN OTHER SCRIPTS.**

  A label is written in ASCII as its ASCII characters, a hyphen, and the places and numbers of its
  other characters.  The other characters are taken in the order of their numbers; each is written
  as the distance from the one before, counted over all places where a character could stand.  A
  distance is a number to base 36 whose digits end at thresholds, and the thresholds adapt to the
  distances seen so far.
-/

namespace SuiteRunner.Punycode

/-- The character for a digit to base 36. -/
def digitChar (d : Nat) : Char :=
  if d < 26 then Char.ofNat ('a'.toNat + d) else Char.ofNat ('0'.toNat + (d - 26))

/-- The threshold of the digit at place `k`, where places count in steps of 36. -/
def threshold (k bias : Nat) : Nat := min 26 (max 1 (k - bias))

/-- A distance as digits, from the place `k` on. -/
def distanceDigits (bias k distance : Nat) : List Char :=
  let t := threshold k bias
  if distance < t then [digitChar distance]
  else digitChar (t + (distance - t) % (36 - t))
    :: distanceDigits bias (k + 36) ((distance - t) / (36 - t))
termination_by distance
decreasing_by
  have h : 1 ≤ threshold k bias := by unfold threshold; omega
  have := Nat.div_le_self (distance - threshold k bias) (36 - threshold k bias)
  omega

/-- Divide by 35 until no more than 455 is left, counting the divisions in steps of 36. -/
def dampen (delta k : Nat) : Nat × Nat :=
  if 455 < delta then dampen (delta / 35) (k + 36) else (delta, k)
termination_by delta
decreasing_by omega

/-- The bias after a distance, where `points` characters are written so far. -/
def adapt (distance points : Nat) (first : Bool) : Nat :=
  let d := if first then distance / 700 else distance / 2
  let (d, k) := dampen (d + d / points) 0
  k + 36 * d / (d + 38)

/-- What is written so far. -/
structure Progress where
  out : List Char
  distance : Nat
  bias : Nat
  points : Nat

/-- Pass one character of the label while those with the number `n` are written. -/
def pass (ascii n : Nat) (p : Progress) (c : Char) : Progress :=
  if c.toNat < n then { p with distance := p.distance + 1 }
  else if c.toNat = n then
    { out := p.out ++ distanceDigits p.bias 36 p.distance, distance := 0,
      bias := adapt p.distance (p.points + 1) (p.points == ascii), points := p.points + 1 }
  else p

/-- Write the characters with each of the numbers in `wanted`, which ascend. -/
def passes (label : List Char) (ascii : Nat) : List Nat → Nat → Progress → Progress
  | [], _, p => p
  | n :: rest, seen, p =>
    let p := { p with distance := p.distance + (n - seen) * (p.points + 1) }
    let p := label.foldl (pass ascii n) p
    passes label ascii rest (n + 1) { p with distance := p.distance + 1 }

/-- A number put into an ascending list, unless it is there. -/
def insertNumber (n : Nat) : List Nat → List Nat
  | [] => [n]
  | m :: rest =>
    if n < m then n :: m :: rest else if n = m then m :: rest else m :: insertNumber n rest

/-- **A label in ASCII.** -/
def encode (label : List Char) : List Char :=
  let plain := label.filter fun c => c.toNat < 128
  let other := (label.filter fun c => 128 ≤ c.toNat).map Char.toNat
  let start : Progress := ⟨[], 0, 72, plain.length⟩
  let p := passes label plain.length (other.foldr insertNumber []) 128 start
  plain ++ (if plain.isEmpty then [] else ['-']) ++ p.out

/-- A label as it stands in an address: one that is not ASCII gets a mark. -/
def label (cs : List Char) : List Char :=
  if cs.all fun c => c.toNat < 128 then cs else "xn--".toList ++ encode cs

end SuiteRunner.Punycode

import SuiteRunner.Regex.CharSet

/-!
  SuiteRunner.Regex.Pattern
  ────────────────────────────────
  **PATTERNS AND WHAT THEY MATCH.**

  `Pattern.ends` takes a set of positions of a text to the set of positions at which a match that
  starts in the first set may end.  Repetition iterates that map, so a text is searched in time
  that grows with its length and never with the number of ways to match it.
-/

namespace SuiteRunner.Regex

/-- A condition on a position. -/
inductive Look where
  | textStart | textEnd | lineStart | lineEnd | lineStartAny | lineEndAny
  | wordBoundary | notWordBoundary | wordStart | wordEnd | wordStartHalf | wordEndHalf
  deriving DecidableEq, Repr

/-- A pattern. -/
inductive Pattern where
  | empty
  | char (s : CharSet)
  | look (l : Look)
  | seq (a b : Pattern)
  | alt (a b : Pattern)
  /-- At least `least` times, at most `most` times if that is given. -/
  | many (least : Nat) (most : Option Nat) (p : Pattern)
  deriving Repr, Inhabited

/-- The text that is searched. -/
abbrev Haystack := Array Char

namespace Look

/-- Whether a condition holds at a position. -/
def holds (l : Look) (h : Haystack) (p : Nat) : Bool :=
  let before := if p = 0 then none else h[p - 1]?
  let after := h[p]?
  let wordBefore := (before.map Category.isWord).getD false
  let wordAfter := (after.map Category.isWord).getD false
  match l with
  | .textStart => p == 0
  | .textEnd => p == h.size
  | .lineStart => p == 0 || before == some '\n'
  | .lineEnd => p == h.size || after == some '\n'
  | .lineStartAny => p == 0 || before == some '\n' || (before == some '\r' && after != some '\n')
  | .lineEndAny =>
    p == h.size || after == some '\r' || (after == some '\n' && before != some '\r')
  | .wordBoundary => wordBefore != wordAfter
  | .notWordBoundary => wordBefore == wordAfter
  | .wordStart => !wordBefore && wordAfter
  | .wordEnd => wordBefore && !wordAfter
  | .wordStartHalf => !wordBefore
  | .wordEndHalf => !wordAfter

end Look

/-- The union of two ascending lists of positions. -/
def mergePositions : Nat → List Nat → List Nat → List Nat
  | 0, _, _ => []
  | _, [], qs => qs
  | _, ps, [] => ps
  | fuel + 1, p :: ps, q :: qs =>
    if p < q then p :: mergePositions fuel ps (q :: qs)
    else if q < p then q :: mergePositions fuel (p :: ps) qs
    else p :: mergePositions fuel ps qs

/-- The union of two ascending lists of positions. -/
def unionPositions (ps qs : List Nat) : List Nat :=
  mergePositions (ps.length + qs.length + 1) ps qs

/-- Apply a map of positions a number of times, or until nothing changes any more. -/
def iterate (f : List Nat → List Nat) : Nat → List Nat → List Nat
  | 0, ps => ps
  | n + 1, ps =>
    let qs := f ps
    if qs == ps then ps else iterate f n qs

/-- The positions reached by applying a map at most a number of times. -/
def reached (f : List Nat → List Nat) : Nat → List Nat → List Nat
  | 0, ps => ps
  | n + 1, ps =>
    let qs := unionPositions ps (f ps)
    if qs == ps then ps else reached f n qs

namespace Pattern

/-- **The positions at which matches that start in a set of positions may end.** -/
def ends (h : Haystack) : Pattern → List Nat → List Nat
  | .empty, ps => ps
  | .char s, ps =>
    ps.filterMap fun p =>
      match h[p]? with
      | some c => if s.has c then some (p + 1) else none
      | none => none
  | .look l, ps => ps.filter fun p => l.holds h p
  | .seq a b, ps => b.ends h (a.ends h ps)
  | .alt a b, ps => unionPositions (a.ends h ps) (b.ends h ps)
  | .many least most p, ps =>
    let start := iterate (p.ends h) least ps
    let more := match most with
      | none => h.size + 1
      | some n => min (n - least) (h.size + 1)
    reached (p.ends h) more start

/-- Whether a pattern matches somewhere in a text. -/
def isMatch (p : Pattern) (text : String) : Bool :=
  let h : Haystack := text.toList.toArray
  !(p.ends h (List.range (h.size + 1))).isEmpty

/-- Roughly how much room a compiled pattern takes, in bytes. -/
def weight : Pattern → Nat
  | .empty => 16
  | .char (.ranges rs _) => 40 * (rs.length + 1)
  | .char .word => 30000
  | .char .digit => 3000
  | .char _ => 400
  | .look _ => 24
  | .seq a b => a.weight + b.weight
  | .alt a b => a.weight + b.weight + 32
  | .many least most p => max 1 (max least (most.getD 0)) * (p.weight + 16)

end Pattern

end SuiteRunner.Regex

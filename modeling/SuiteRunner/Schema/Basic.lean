import SuiteRunner.Json.Render
import SuiteRunner.Number.Shortest
import SuiteRunner.Regex.Pattern

/-!
  SuiteRunner.Schema.Basic
  ────────────────────────────────
  **WHAT A SCHEMA SAYS OF DOCUMENTS.**

  A schema accepts everything, nothing, or what all of its keywords accept.  Keywords stand in the
  order in which they were written, which is the order of what is said about faults.  The keywords
  that only make sense together (members by name, by pattern and all others; items at the front
  and the rest) are one constructor each.
-/

namespace SuiteRunner

/-- The types that a schema may ask for. -/
inductive TypeName where
  | array | boolean | integer | null | number | object | string
  deriving DecidableEq, Repr

namespace TypeName

/-- Every type with its word, in alphabetical order. -/
def named : List (String × TypeName) := [
  ("array", .array), ("boolean", .boolean), ("integer", .integer), ("null", .null),
  ("number", .number), ("object", .object), ("string", .string)]

/-- The word for a type. -/
def word (t : TypeName) : String :=
  match named.find? (fun e => e.2 == t) with
  | some e => e.1
  | none => ""

end TypeName

namespace Schema

/-- On which side of a number values must be. -/
inductive Bound where
  | atMost | atLeast | below | above
  deriving DecidableEq, Repr

/-- What is counted: characters of texts, items of arrays, members of objects. -/
inductive Counted where
  | characters | items | members
  deriving DecidableEq, Repr

mutual
/-- A schema. -/
inductive Rule where
  | always
  | never
  | all (keywords : List Keyword)

/-- A keyword. -/
inductive Keyword where
  | types (ts : List TypeName)
  | const (v : Json)
  | enum (vs : List Json)
  | bound (b : Bound) (limit : Json.Number)
  | multipleOf (x : Binary64)
  | atMost (c : Counted) (n : Nat)
  | atLeast (c : Counted) (n : Nat)
  | pattern (text : String) (p : Regex.Pattern)
  | uniqueItems
  /-- One rule for each item at the front. -/
  | front (rs : List Rule)
  /-- A rule for the items after the first `skip`. -/
  | items (skip : Nat) (r : Rule)
  /-- No items after the first `n`. -/
  | noItemsAfter (n : Nat)
  /-- How many items a rule must accept. -/
  | contains (r : Rule) (low : Nat) (high : Option Nat)
  | required (names : List String)
  | requiredWith (names : List (String × List String))
  | rulesWith (rules : List (String × Rule))
  | members (rules : List (String × Rule))
  | memberPatterns (rules : List (Regex.Pattern × Rule))
  /-- All members: by name, by pattern, and the others. -/
  | allMembers (rules : List (String × Rule)) (patterns : List (Regex.Pattern × Rule))
      (byName byPattern : Bool) (others : Rule)
  | memberNames (r : Rule)
  | allOf (rs : List Rule)
  | anyOf (rs : List Rule)
  | oneOf (rs : List Rule)
  | not (source : Json) (r : Rule)
  | when (test : Rule) (yes no : Option Rule)
  /-- The rule at another place of the document. -/
  | other (address : String)
  /-- A rule for the members that no keyword of the schema has dealt with. -/
  | unseenMembers (r : Rule)
  /-- A rule for the items that no keyword of the schema has dealt with. -/
  | unseenItems (r : Rule)
end

/-! ## Values. -/

/-- The place of a number on the line. -/
def placeOf : Json.Number → Option Binary64.Place
  | .int n => some (.at (n * Int.pow 2 1074))
  | .float x => x.place?

/-- The order of two numbers. -/
def compare? (a b : Json.Number) : Option Ordering :=
  match placeOf a, placeOf b with
  | some p, some q => some (p.compare q)
  | _, _ => none

mutual
/-- Equality of documents, numbers by value. -/
def equal : Json → Json → Bool
  | .null, .null => true
  | .bool a, .bool b => a == b
  | .num a, .num b => compare? a b == some .eq
  | .str a, .str b => a == b
  | .arr xs, .arr ys => equalItems xs ys
  | .obj ms, .obj ns => ms.length == ns.length && equalMembers ms ns
  | _, _ => false

/-- Equality of arrays, place by place. -/
def equalItems : List Json → List Json → Bool
  | [], [] => true
  | x :: xs, y :: ys => equal x y && equalItems xs ys
  | _, _ => false

/-- Whether every member of the first list has an equal one in the second. -/
def equalMembers : List (String × Json) → List (String × Json) → Bool
  | [], _ => true
  | (k, v) :: rest, ns =>
    (match Json.lookup? k ns with
      | some w => equal v w
      | none => false) && equalMembers rest ns
end

/-- Two doubles closer than this count as equal where a schema names one number. -/
def tolerance : Binary64 := .ofRatio false 1 (Nat.pow 2 52)

/-- Whether a value is the one that a schema names. -/
def isConst (expected v : Json) : Bool :=
  match expected, v with
  | .num a, .num b =>
    let d := a.toDouble.sub b.toDouble
    d.less tolerance && d.neg.less tolerance
  | _, _ => equal expected v

/-- Whether a value has a type; whole doubles are integers too. -/
def hasType (v : Json) : TypeName → Bool
  | .array => v.kind == .array
  | .boolean => v.kind == .boolean
  | .null => v.kind == .null
  | .number => v.kind == .number
  | .object => v.kind == .object
  | .string => v.kind == .string
  | .integer =>
    match v with
    | .num (.int _) => true
    | .num (.float x) => x.isFinite && x.isWhole
    | _ => false

/-- Whether no two items of a list are equal. -/
def allDistinct : List Json → Bool
  | [] => true
  | x :: rest => !rest.any (equal x) && allDistinct rest

/-- Whether a number is a multiple of another.  For a whole divisor the remainder decides; for any
other one the fraction of the quotient does, which must not be positive, or exact division where
the quotient is too great. -/
def isMultiple (x divisor : Binary64) : Bool :=
  if divisor.isWhole then x.isWhole && (x.rem divisor).isZero
  else
    let q := x.div divisor
    if q.isFinite then (q.rem (.ofInt 1)).less tolerance
    else
      match x.place?, divisor.place? with
      | some (.at a), some (.at b) => a % b == 0
      | _, _ => false

/-- Whether a number keeps a bound. -/
def keeps (b : Bound) (limit x : Json.Number) : Bool :=
  match b, compare? x limit with
  | .atMost, some .gt => false
  | .atLeast, some .lt => false
  | .below, some .lt => true
  | .above, some .gt => true
  | .below, _ => false
  | .above, _ => false
  | _, _ => true

/-- How many of what is counted a value has. -/
def countOf (c : Counted) (v : Json) : Option Nat :=
  match c, v with
  | .characters, .str s => some s.length
  | .items, .arr xs => some xs.length
  | .members, .obj ms => some ms.length
  | _, _ => none

end Schema

end SuiteRunner

import SuiteRunner.Number.Binary64

/-!
  SuiteRunner.Json.Value
  ────────────────────────────────
  **DOCUMENT VALUES.**

  A number is kept as an integer when it was written as one and fits 64 bits, signed or unsigned;
  any other number is a double.  An object keeps its members in the order in which their keys were
  first written.  `same` is equality of documents: the order of members does not matter, and the
  integer `1` differs from the double `1.0`.
-/

namespace SuiteRunner

/-- A number in a document. -/
inductive Json.Number where
  | int (n : Int)
  | float (x : Binary64)
  deriving DecidableEq, Repr, Inhabited

/-- A document. -/
inductive Json where
  | null
  | bool (b : Bool)
  | num (n : Json.Number)
  | str (s : String)
  | arr (items : List Json)
  | obj (members : List (String × Json))
  deriving Repr, Inhabited

namespace Json

/-! ## §1. Numbers. -/

/-- The double nearest to a number. -/
def Number.toDouble : Number → Binary64
  | .int n => .ofInt n
  | .float x => x

/-- Equality of numbers of one kind; numbers of different kinds differ. -/
def Number.same : Number → Number → Bool
  | .int a, .int b => a == b
  | .float x, .float y => x.equal y
  | _, _ => false

/-- An integer document. -/
def ofInt (n : Int) : Json := .num (.int n)

/-- A document for a natural number. -/
def ofNat (n : Nat) : Json := .num (.int n)

/-! ## §2. Members of objects. -/

/-- The value under a key. -/
def lookup? (key : String) : List (String × Json) → Option Json
  | [] => none
  | (k, v) :: rest => if k = key then some v else lookup? key rest

/-- Put a value under a key: in the place of an old one, or at the end. -/
def insertMember (key : String) (value : Json) : List (String × Json) → List (String × Json)
  | [] => [(key, value)]
  | (k, v) :: rest =>
    if k = key then (k, value) :: rest else (k, v) :: insertMember key value rest

/-- The object that results from writing members one after another. -/
def ofMembers (members : List (String × Json)) : Json :=
  .obj (members.foldl (fun ms (k, v) => insertMember k v ms) [])

/-- The member of an object under a key. -/
def member? (key : String) : Json → Option Json
  | .obj ms => lookup? key ms
  | _ => none

/-- The text of a string document. -/
def text? : Json → Option String
  | .str s => some s
  | _ => none

/-- The items of an array. -/
def items? : Json → Option (List Json)
  | .arr xs => some xs
  | _ => none

/-- The integer of an integer document. -/
def int? : Json → Option Int
  | .num (.int n) => some n
  | _ => none

/-- The members of an object. -/
def members? : Json → Option (List (String × Json))
  | .obj ms => some ms
  | _ => none

/-- Absent texts are written as null. -/
def ofOption {α : Type} (f : α → Json) : Option α → Json
  | none => .null
  | some a => f a

/-! ## §3. Equality. -/

mutual
/-- Equality of documents. -/
def same : Json → Json → Bool
  | .null, .null => true
  | .bool a, .bool b => a == b
  | .num a, .num b => a.same b
  | .str a, .str b => a == b
  | .arr xs, .arr ys => sameItems xs ys
  | .obj ms, .obj ns => ms.length == ns.length && sameMembers ms ns
  | _, _ => false

/-- Equality of arrays, place by place. -/
def sameItems : List Json → List Json → Bool
  | [], [] => true
  | x :: xs, y :: ys => same x y && sameItems xs ys
  | _, _ => false

/-- Whether every member of the first list has an equal one under its key in the second. -/
def sameMembers : List (String × Json) → List (String × Json) → Bool
  | [], _ => true
  | (k, v) :: rest, ns =>
    (match lookup? k ns with
      | some w => same v w
      | none => false) && sameMembers rest ns
end

instance : BEq Json := ⟨same⟩

/-! ## §4. Kinds and sizes. -/

/-- The six kinds of documents. -/
inductive Kind where
  | null | boolean | number | string | array | object
  deriving DecidableEq, Repr

/-- The kind of a document. -/
def kind : Json → Kind
  | .null => .null
  | .bool _ => .boolean
  | .num _ => .number
  | .str _ => .string
  | .arr _ => .array
  | .obj _ => .object

/-- The word for a kind. -/
def Kind.word : Kind → String
  | .null => "null"
  | .boolean => "boolean"
  | .number => "number"
  | .string => "string"
  | .array => "array"
  | .object => "object"

end Json

end SuiteRunner

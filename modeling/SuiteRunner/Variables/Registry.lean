import SuiteRunner.Error

/-!
  SuiteRunner.Variables.Registry
  ────────────────────────────────
  **VARIABLES THAT OUTLIVE A RUN.**

  The registry is a table of rows.  A row is addressed by its scope, its owner and its name; global
  rows have empty owner columns, and a local variable without both a suite and a test case is
  refused.  Every write goes through `put`, which changes the value of the row that is already
  there or appends a new one, so no address has two rows.
-/

namespace SuiteRunner

/-- What is to be written. -/
structure NewVariable where
  name : String
  value : String
  scope : Scope
  suite : Option String := none
  testCase : Option String := none
  deriving DecidableEq, Repr

/-- The address of a row. -/
structure RowKey where
  scope : Scope
  suite : String
  testCase : String
  name : String
  deriving DecidableEq, Repr

/-- A row: its number, its address, its value and when it was made and last written. -/
structure Row where
  id : Nat
  key : RowKey
  value : String
  createdAt : Int
  updatedAt : Int
  deriving DecidableEq, Repr

/-- The table of variables, with the number of the next row. -/
structure Registry where
  rows : List Row
  nextId : Nat
  deriving DecidableEq, Repr

instance : Inhabited Registry := ⟨⟨[], 1⟩⟩

namespace Registry

/-- The registry without rows. -/
def empty : Registry := ⟨[], 1⟩

/-! ## §1. Addresses. -/

/-- The address of a global variable. -/
def globalKey (name : String) : RowKey := ⟨.global, "", "", name⟩

/-- The address of a local variable. -/
def localKey (owner : Owner) (name : String) : RowKey := ⟨.perCase, owner.suite, owner.testCase, name⟩

/-- The address at which a variable is to be written. -/
def keyOf (v : NewVariable) : Except Failure RowKey :=
  match v.scope with
  | .global => .ok (globalKey v.name)
  | .perCase =>
    match v.suite, v.testCase with
    | some s, some t =>
      if s.isEmpty || t.isEmpty then .error (.missingOwner v.name)
      else .ok (localKey ⟨s, t⟩ v.name)
    | _, _ => .error (.missingOwner v.name)

/-! ## §2. Rows. -/

/-- The row at an address. -/
def find? (r : Registry) (k : RowKey) : Option Row := r.rows.find? fun row => row.key == k

/-- Whether an address has a row. -/
def has (r : Registry) (k : RowKey) : Bool := (r.find? k).isSome

/-- Write a value at an address. -/
def put (r : Registry) (k : RowKey) (value : String) (now : Int) : Registry :=
  if r.has k then
    { r with rows := r.rows.map fun row =>
        if row.key = k then { row with value := value, updatedAt := now } else row }
  else
    { rows := r.rows ++ [⟨r.nextId, k, value, now, now⟩], nextId := r.nextId + 1 }

/-- The rows that do not satisfy a test, and how many do. -/
def removeIf (r : Registry) (test : Row → Bool) : Nat × Registry :=
  (r.rows.countP test, { r with rows := r.rows.filter fun row => !test row })

/-! ## §3. Operations. -/

/-- Write a variable, over an old value if there is one. -/
def set (r : Registry) (v : NewVariable) (now : Int) : Except Failure Registry :=
  (keyOf v).map fun k => r.put k v.value now

/-- The name with a number after it. -/
def numbered (name : String) (n : Nat) : String := name ++ "_" ++ toString n

/-- The first numbered name from `n` on whose address is free; one of the next `fuel + 1` is, as
soon as `fuel` is not less than the number of rows. -/
def freeName (r : Registry) (k : RowKey) : Nat → Nat → String
  | 0, n => numbered k.name n
  | fuel + 1, n =>
    if r.has { k with name := numbered k.name n } then freeName r k fuel (n + 1)
    else numbered k.name n

/-- A free name to suggest in place of one that is taken. -/
def suggestion (r : Registry) (k : RowKey) : String := freeName r k r.rows.length 1

/-- Add a variable; a name that is taken is refused unless it may be overridden. -/
def add (r : Registry) (v : NewVariable) (override : Bool) (now : Int) :
    Except Failure (Row × Registry) := do
  let k ← keyOf v
  if r.has k && !override then
    .error (.variableConflict v.name v.scope (r.suggestion k))
  else
    let r := r.put k v.value now
    match r.find? k with
    | some row => return (row, r)
    | none => .error (.storage "Query returned no rows")

/-- The variable that a name stands for: the local one of the owner if both of its ids are given,
else the global one. -/
def lookup (r : Registry) (name : String) (suite testCase : Option String) : Option Row :=
  match suite, testCase with
  | some s, some t => (r.find? (localKey ⟨s, t⟩ name)).orElse fun _ => r.find? (globalKey name)
  | _, _ => r.find? (globalKey name)

/-- The order of rows in lists: by scope, name, suite and test case. -/
def rowLe (a b : Row) : Bool :=
  let key (row : Row) : List String :=
    [row.key.scope.word, row.key.name, row.key.suite, row.key.testCase]
  @decide _ (List.decidableLE (key a) (key b))

/-- All rows, or those of one scope, in order. -/
def list (r : Registry) (scope : Option Scope) : List Row :=
  (r.rows.filter fun row =>
    match scope with
    | none => true
    | some s => row.key.scope == s).mergeSort rowLe

/-- Delete one variable; tells whether there was one. -/
def delete (r : Registry) (scope : Scope) (suite testCase : Option String) (name : String) :
    Bool × Registry :=
  let k : RowKey := match scope with
    | .global => globalKey name
    | .perCase => localKey ⟨suite.getD "", testCase.getD ""⟩ name
  let (n, r) := r.removeIf fun row => row.key == k
  (decide (n > 0), r)

/-- Delete the local variables of all owners. -/
def deleteAllLocal (r : Registry) : Nat × Registry :=
  r.removeIf fun row => row.key.scope == .perCase

/-- Delete all global variables. -/
def clearGlobal (r : Registry) : Nat × Registry :=
  r.removeIf fun row => row.key.scope == .global

end Registry

end SuiteRunner

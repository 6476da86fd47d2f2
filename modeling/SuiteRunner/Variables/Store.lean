import SuiteRunner.Json.Value
import SuiteRunner.Variables.Registry
import SuiteRunner.Variables.Template

/-!
  SuiteRunner.Variables.Store
  ────────────────────────────────
  **THE VARIABLES OF A RUN.**

  A store holds global variables, local variables by owner, and perhaps the registry behind them.
  Every write goes to memory and to the registry.  A name is looked for among the owner's local
  variables, then among the global ones, then in the registry, and what the registry answers is
  kept in memory.  Placeholders in texts and documents are filled by such look-ups, one after
  another from the left.
-/

namespace SuiteRunner

/-! ## §1. Texts under keys of any type. -/

namespace Assoc

variable {κ : Type} [DecidableEq κ]

/-- The text under a key. -/
def get? (k : κ) : List (κ × String) → Option String
  | [] => none
  | (j, v) :: rest => if j = k then some v else get? k rest

/-- Put a text under a key, in the place of an old one or at the end. -/
def insert (k : κ) (v : String) : List (κ × String) → List (κ × String)
  | [] => [(k, v)]
  | (j, w) :: rest => if j = k then (k, v) :: rest else (j, w) :: insert k v rest

end Assoc

/-! ## §2. The store. -/

/-- The variables of a run.  `clock` is the time that writes to the registry bear. -/
structure Store where
  globals : List (String × String)
  locals : List ((Owner × String) × String)
  registry : Option Registry
  clock : Int
  deriving DecidableEq, Repr

instance : Inhabited Store := ⟨⟨[], [], none, 0⟩⟩

namespace Store

/-- The store without variables in memory, over a registry or over none. -/
def ofRegistry (registry : Option Registry) : Store := ⟨[], [], registry, 0⟩

/-- Write a variable to the registry; one that the registry refuses is left out. -/
def persist (s : Store) (v : NewVariable) : Store :=
  match s.registry with
  | none => s
  | some r =>
    match r.set v s.clock with
    | .ok r => { s with registry := some r }
    | .error _ => s

/-- Write a global variable. -/
def setGlobal (s : Store) (name value : String) : Store :=
  { s with globals := Assoc.insert name value s.globals }.persist
    { name := name, value := value, scope := .global }

/-- Write a local variable. -/
def setLocal (s : Store) (o : Owner) (name value : String) : Store :=
  { s with locals := Assoc.insert (o, name) value s.locals }.persist
    { name := name, value := value, scope := .perCase,
      suite := some o.suite, testCase := some o.testCase }

/-- Write a variable of either scope. -/
def set (s : Store) (o : Owner) (scope : Scope) (name value : String) : Store :=
  match scope with
  | .global => s.setGlobal name value
  | .perCase => s.setLocal o name value

/-- The value of a global variable in memory. -/
def getGlobal (s : Store) (name : String) : Option String := Assoc.get? name s.globals

/-- The value that an owner's name has in memory. -/
def inMemory (s : Store) (o : Owner) (name : String) : Option String :=
  (Assoc.get? (o, name) s.locals).orElse fun _ => Assoc.get? name s.globals

/-- What the registry answers to an owner. -/
def inRegistry (s : Store) (o : Owner) (name : String) : Option Row :=
  s.registry.bind fun r => r.lookup name (some o.suite) (some o.testCase)

/-- Keep in memory what the registry answered. -/
def keep (s : Store) (o : Owner) (name : String) (row : Row) : Store :=
  match row.key.scope with
  | .global => { s with globals := Assoc.insert name row.value s.globals }
  | .perCase => { s with locals := Assoc.insert (o, name) row.value s.locals }

/-- **The value that a name has for an owner,** and the store that remembers it. -/
def get (s : Store) (o : Owner) (name : String) : Option String × Store :=
  match s.inMemory o name with
  | some v => (some v, s)
  | none =>
    match s.inRegistry o name with
    | some row => (some row.value, s.keep o name row)
    | none => (none, s)

/-- Forget all global variables. -/
def clearGlobal (s : Store) : Store :=
  { s with globals := [], registry := s.registry.map fun r => r.clearGlobal.2 }

/-- Forget the local variables of all owners; tells how many there were, in memory or in the
registry, whichever is more. -/
def cleanupLocals (s : Store) : Nat × Store :=
  let persisted := match s.registry with
    | none => 0
    | some r => r.deleteAllLocal.1
  (max s.locals.length persisted,
    { s with locals := [], registry := s.registry.map fun r => r.deleteAllLocal.2 })

/-! ## §3. Placeholders. -/

/-- The text of pieces, each hole filled by what its name stands for, or left empty. -/
def fill (o : Owner) : List Template.Piece → Store → List Char × Store
  | [], s => ([], s)
  | .char c :: rest, s =>
    let (cs, s) := fill o rest s
    (c :: cs, s)
  | .hole name :: rest, s =>
    let (v, s) := s.get o name
    let (cs, s) := fill o rest s
    ((v.getD "").toList ++ cs, s)

/-- **A text with its placeholders filled.** -/
def inject (s : Store) (o : Owner) (text : String) : String × Store :=
  let (cs, s) := fill o (Template.pieces text) s
  (String.ofList cs, s)

mutual
/-- A document with the placeholders in its strings and keys filled.  Of keys that become equal
the last one keeps its value, in the place of the first. -/
def injectJson (o : Owner) : Json → Store → Json × Store
  | .str t, s =>
    let (t, s) := s.inject o t
    (.str t, s)
  | .arr xs, s =>
    let (xs, s) := injectItems o xs s
    (.arr xs, s)
  | .obj ms, s =>
    let (ms, s) := injectMembers o ms s
    (Json.ofMembers ms, s)
  | v, s => (v, s)

/-- The items of an array, one after another. -/
def injectItems (o : Owner) : List Json → Store → List Json × Store
  | [], s => ([], s)
  | x :: rest, s =>
    let (x, s) := injectJson o x s
    let (xs, s) := injectItems o rest s
    (x :: xs, s)

/-- The members of an object, one after another, each key before its value. -/
def injectMembers (o : Owner) : List (String × Json) → Store → List (String × Json) × Store
  | [], s => ([], s)
  | (k, v) :: rest, s =>
    let (k, s) := s.inject o k
    let (v, s) := injectJson o v s
    let (ms, s) := injectMembers o rest s
    ((k, v) :: ms, s)
end

end Store

end SuiteRunner

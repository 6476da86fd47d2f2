import SuiteRunner.Json.Value

/-!
  SuiteRunner.Toml.Table
  ────────────────────────────────
  **TABLES UNDER CONSTRUCTION.**

  A document is a table that grows line by line.  A table remembers how it came to be, because
  that decides what may still be added to it: one that was only passed through on the way to
  another may be opened later, one with a header of its own may not be opened twice, and one made
  by dotted keys takes dotted keys only.
-/

namespace SuiteRunner.Toml

/-- How a table came to be. -/
structure Making where
  /-- It was passed through and has no header of its own. -/
  implicit : Bool
  /-- It was made by dotted keys. -/
  dotted : Bool
  deriving DecidableEq, Repr

/-- What may stand under a key. -/
inductive Item where
  /-- A finished value. -/
  | value (v : Json)
  | table (making : Making) (members : List (String × Item))
  /-- Tables with one header, each with members of its own. -/
  | tables (elements : List (List (String × Item)))

/-- The members of a table. -/
abbrev Members := List (String × Item)

/-- The item under a key. -/
def find? (key : String) : Members → Option Item
  | [] => none
  | (k, i) :: rest => if k = key then some i else find? key rest

/-- Put an item under a key, in the place of an old one or at the end. -/
def put (key : String) (item : Item) : Members → Members
  | [] => [(key, item)]
  | (k, i) :: rest => if k = key then (k, item) :: rest else (k, i) :: put key item rest

/-- Take away what is under a key. -/
def drop (key : String) (ms : Members) : Members := ms.filter fun m => m.1 != key

/-- The making of a table with a header. -/
def headed : Making := ⟨false, false⟩

/-- Change the table at the end of a path.  Tables that are missing are made on the way; `dotted`
says whether the path is that of a dotted key. -/
def alter (dotted : Bool) (change : Making → Members → Option Members) :
    List String → Making → Members → Option Members
  | [], making, ms => change making ms
  | key :: rest, _, ms =>
    match find? key ms with
    | none =>
      let making : Making := ⟨true, dotted⟩
      (alter dotted change rest making []).map fun inner => put key (.table making inner) ms
    | some (.value _) => none
    | some (.table making inner) =>
      if dotted && !making.implicit then none
      else (alter dotted change rest making inner).map fun inner => put key (.table making inner) ms
    | some (.tables elements) =>
      match elements.getLast? with
      | none => none
      | some inner =>
        (alter dotted change rest headed inner).map fun inner =>
          put key (.tables (elements.dropLast ++ [inner])) ms

/-- Add a value under a key that may be dotted: `path` is all of it but the last part. -/
def addValue (making : Making) (ms : Members) (path : List String) (key : String) (v : Item) :
    Option Members :=
  alter true (fun making ms =>
    if making.dotted == path.isEmpty then none
    else if (find? key ms).isSome then none
    else some (put key v ms)) path making ms

mutual
/-- A finished item as a document. -/
def Item.toJson : Item → Json
  | .value v => v
  | .table _ ms => .obj (membersToJson ms)
  | .tables es => .arr (elementsToJson es)

/-- Finished members as those of a document. -/
def membersToJson : List (String × Item) → List (String × Json)
  | [] => []
  | (k, i) :: rest => (k, i.toJson) :: membersToJson rest

/-- The elements under one header. -/
def elementsToJson : List (List (String × Item)) → List Json
  | [] => []
  | ms :: rest => .obj (membersToJson ms) :: elementsToJson rest
end

/-- What the lines up to now have made: the document without the table that is being filled, that
table, its path, and whether its header is one of several. -/
structure Draft where
  root : Members
  current : Members
  path : List String
  several : Bool

/-- The draft before the first line. -/
def Draft.empty : Draft := ⟨[], [], [], false⟩

/-- Put the table that is being filled in its place. -/
def Draft.settle (d : Draft) : Option Members :=
  match d.path.getLast? with
  | none => some d.current
  | some key =>
    alter false (fun _ ms =>
      match find? key ms, d.several with
      | some (.tables es), true => some (put key (.tables (es ++ [d.current])) ms)
      | none, true => some (put key (.tables [d.current]) ms)
      | _, true => none
      | some (.table making _), false =>
        if making.implicit then some (put key (.table headed d.current) ms) else none
      | none, false => some (put key (.table headed d.current) ms)
      | _, false => none) d.path.dropLast headed d.root

/-- Take a table that was passed through out of its place, so that it can be opened. -/
def takeOut (key : String) (ms : Members) : Option Members :=
  match find? key ms with
  | none => some ms
  | some (.table making _) => if making.implicit && !making.dotted then some (drop key ms) else none
  | some _ => none

/-- The members that the table at the end of a path has already. -/
def membersAt : List String → Members → Members
  | [], ms => ms
  | key :: rest, ms =>
    match find? key ms with
    | some (.table _ inner) => membersAt rest inner
    | some (.tables es) => membersAt rest (es.getLast?.getD [])
    | _ => []

/-- Open the table of a header. -/
def Draft.openTable (d : Draft) (path : List String) : Option Draft := do
  let root ← d.settle
  let key ← path.getLast?
  let rest ← alter false (fun _ ms => takeOut key ms) path.dropLast headed root
  return ⟨rest, membersAt path root, path, false⟩

/-- Open one more table of a header that may come several times. -/
def Draft.openElement (d : Draft) (path : List String) : Option Draft := do
  let root ← d.settle
  let key ← path.getLast?
  let root ← alter false (fun _ ms =>
    match find? key ms with
    | none => some ms
    | some (.tables _) => some ms
    | some _ => none) path.dropLast headed root
  return ⟨root, [], path, true⟩

/-- Add a line with a key and a value. -/
def Draft.add (d : Draft) (path : List String) (key : String) (v : Json) : Option Draft :=
  (addValue headed d.current path key (.value v)).map fun ms => { d with current := ms }

end SuiteRunner.Toml

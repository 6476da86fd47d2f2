import SuiteRunner.Files.Path
import SuiteRunner.Variables.Registry

/-!
  SuiteRunner.Files.Tree
  ────────────────────────────────
  **A DIRECTORY TREE.**

  A tree lists what is at which place below the working directory, a place being a list of names.
  A directory is there if it is listed or if something is listed below it.  Paths are resolved
  name by name, as file systems do, so the causes of refusal are theirs too.
-/

namespace SuiteRunner

/-- Why the file system refuses. -/
inductive FileFault where
  | notFound
  | notDirectory
  | isDirectory
  | exists_
  | badDatabase
  deriving DecidableEq, Repr

/-- The text of a refusal. -/
def FileFault.message : FileFault → String
  | .notFound => "No such file or directory (os error 2)"
  | .notDirectory => "Not a directory (os error 20)"
  | .isDirectory => "Is a directory (os error 21)"
  | .exists_ => "File exists (os error 17)"
  | .badDatabase => "file is not a database"

/-- What may be at a place. -/
inductive FileEntry where
  | text (content : String)
  | directory
  | registry (content : Registry)
  deriving DecidableEq, Repr

/-- What is at which place. -/
structure FileTree where
  entries : List (List String × FileEntry)
  deriving DecidableEq, Repr

instance : Inhabited FileTree := ⟨⟨[]⟩⟩

namespace FileTree

/-- The tree with nothing in it. -/
def empty : FileTree := ⟨[]⟩

/-! ## §1. Places. -/

/-- Whether a place is the working directory or the root, which are always there. -/
def isGiven (place : List String) : Bool := place == [] || place == [""]

/-- What is at a place. -/
def at? (t : FileTree) (place : List String) : Option FileEntry :=
  match t.entries.lookup place with
  | some e => some e
  | none =>
    if isGiven place || t.entries.any (fun e => place.isPrefixOf e.1) then some .directory else none

/-- Whether a directory is at a place. -/
def isDirectoryAt (t : FileTree) (place : List String) : Bool := t.at? place == some .directory

/-- Go down from a directory by names; the place of the last name need not exist. -/
def walk (t : FileTree) (place : List String) : List String → Except FileFault (List String)
  | [] => .ok place
  | name :: rest =>
    match t.at? place with
    | none => .error .notFound
    | some .directory =>
      walk t (Path.step place name) rest
    | some _ => .error .notDirectory

/-- The place of a path. -/
def placeOf (t : FileTree) (path : String) : Except FileFault (List String) :=
  if path.isEmpty then .error .notFound
  else if Path.isAbsolute path then .ok (Path.place path)
  else t.walk [] (Path.names path)

/-- Whether a path leads to a directory. -/
def isDirectory (t : FileTree) (path : String) : Bool :=
  match t.placeOf path with
  | .ok place => t.isDirectoryAt place
  | .error _ => false

/-! ## §2. Reading and writing. -/

/-- The text of a file. -/
def read (t : FileTree) (path : String) : Except FileFault String := do
  let place ← t.placeOf path
  match t.at? place with
  | none => .error .notFound
  | some .directory => .error .isDirectory
  | some (.text s) => if Path.endsInSlash path then .error .notDirectory else .ok s
  | some (.registry _) => .ok ""

/-- Put something at a place, over what was there. -/
def putAt (t : FileTree) (place : List String) (e : FileEntry) : FileTree :=
  if (t.entries.lookup place).isSome then
    ⟨t.entries.map fun old => if old.1 = place then (place, e) else old⟩
  else ⟨t.entries ++ [(place, e)]⟩

/-- The beginnings of a place, from the shortest on. -/
def ancestry (place : List String) : List (List String) :=
  (List.range place.length).map fun n => place.take (n + 1)

/-- Make the directories on the way to a place. -/
def makeDirectoriesAt (t : FileTree) : List (List String) → Except FileFault FileTree
  | [] => .ok t
  | place :: rest =>
    match t.at? place with
    | some .directory => t.makeDirectoriesAt rest
    | some _ => .error (if rest.isEmpty then .exists_ else .notDirectory)
    | none => (t.putAt place .directory).makeDirectoriesAt rest

/-- Make a directory and those above it. -/
def makeDirectories (t : FileTree) (path : String) : Except FileFault FileTree :=
  let start := if Path.isAbsolute path then [""] else []
  t.makeDirectoriesAt ((ancestry (Path.names path)).map fun names => start ++ Path.direct names)

/-- Write a file whose directory is there. -/
def write (t : FileTree) (path : String) (e : FileEntry) : Except FileFault FileTree := do
  let place ← t.placeOf path
  match t.at? place with
  | some .directory => .error .isDirectory
  | _ =>
    if t.isDirectoryAt place.dropLast then .ok (t.putAt place e) else .error .notFound

/-- The tree that results from writing files, with the directories they need. -/
def ofFiles (files : List (String × FileEntry)) : FileTree :=
  files.foldl (fun t (path, e) =>
    let place := Path.names path
    match e with
    | .directory => if (t.at? place).isSome then t else t.putAt place .directory
    | e => t.putAt place e) empty

/-! ## §3. What is below a directory. -/

/-- The order of places, name by name. -/
def placeLe (a b : List String) : Bool := @decide _ (List.decidableLE a b)

/-- The places of the files below a place, without that place, in order. -/
def filesBelow (t : FileTree) (place : List String) : List (List String) :=
  ((t.entries.filterMap fun (p, e) =>
    match e with
    | .directory => none
    | _ =>
      if place.isPrefixOf p && place.length < p.length then some (p.drop place.length)
      else none).mergeSort placeLe)

end FileTree

end SuiteRunner

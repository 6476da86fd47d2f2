import SuiteRunner.Files.Tree
import SuiteRunner.Suite.Document

/-!
  SuiteRunner.Suite.File
  ────────────────────────────────
  **SUITES IN FILES.**

  A suite file is a JSON document.  Below a directory every file with the extension `json` may be
  one; they are taken in the order of the names in their paths, and a look-up passes over those
  that do not load.
-/

namespace SuiteRunner

/-- A suite and the file it was read from. -/
structure SuiteFile where
  path : String
  suite : Suite
  deriving Inhabited

namespace SuiteFile

/-- The suite of a text; a suite has at least one test case. -/
def ofText (text : String) : Except String Suite :=
  match Decode.ofText Suite.decode text with
  | .error e => .error e.message
  | .ok s =>
    if s.cases.isEmpty then .error ("suite '" ++ s.name ++ "' has no test cases") else .ok s

/-- The suite of a file. -/
def open_ (t : FileTree) (path : String) : Except Failure SuiteFile :=
  match t.read path with
  | .error e => .error (.suiteLoad (path ++ ": " ++ e.message))
  | .ok text =>
    match ofText text with
    | .error e => .error (.suiteLoad (path ++ ": " ++ e))
    | .ok s => .ok ⟨path, s⟩

/-- The directory that other files of the suite are relative to. -/
def baseDirectory (f : SuiteFile) : String := Path.parent f.path

/-- The paths of the suite files below a directory, in order. -/
def discover (t : FileTree) (dir : String) : Except Failure (List String) :=
  if !t.isDirectory dir then .error (.suiteLoad ("suite directory not found: " ++ dir))
  else
    match t.placeOf dir with
    | .error _ => .error (.suiteLoad ("suite directory not found: " ++ dir))
    | .ok place =>
      .ok (((t.filesBelow place).filter fun names =>
        (names.getLast?.bind Path.nameExtension?) == some "json").map fun names =>
          Path.join dir ("/".intercalate names))

/-- The first of the files that loads and is meant by an id or a name. -/
def findIn (t : FileTree) (id name : String) : List String → Except Failure SuiteFile
  | [] => .error (.suiteNotFound (id ++ ":" ++ name))
  | path :: rest =>
    match open_ t path with
    | .ok f => if f.suite.isIdentifiedBy id name then .ok f else findIn t id name rest
    | .error _ => findIn t id name rest

/-- The suite below a directory that is meant by an id or a name. -/
def find (t : FileTree) (dir id name : String) : Except Failure SuiteFile :=
  discover t dir >>= findIn t id name

end SuiteFile

end SuiteRunner

/-!
  SuiteRunner.Files.Path
  ────────────────────────────────
  **PATHS.**

  A path is a text of names with slashes between them.  `join` appends a relative path to a
  directory, `parent` is the path without its last name, and the extension of a name is what
  follows its last dot, unless that dot is its first character.
-/

namespace SuiteRunner.Path

/-- The names of a path between slashes; empty names and single dots are left out. -/
def namesFrom : List Char → List Char → List String
  | word, [] => close word []
  | word, '/' :: rest => close word (namesFrom [] rest)
  | word, c :: rest => namesFrom (c :: word) rest
where
  /-- Put a finished name in front, unless it says nothing. -/
  close (word : List Char) (rest : List String) : List String :=
    if word.isEmpty || word == ['.'] then rest else String.ofList word.reverse :: rest

/-- The names of a path. -/
def names (path : String) : List String := namesFrom [] path.toList

/-- One more name after those of a place; two dots lead back, as far as there is a way back. -/
def step (place : List String) (name : String) : List String :=
  if name == ".." && place.any (· != "..") then place.dropLast else place ++ [name]

/-- The names that lead to the same place without a way back between them. -/
def direct (names : List String) : List String := names.foldl step []

/-- Whether a path starts at the root. -/
def isAbsolute (path : String) : Bool := path.toList.head? == some '/'

/-- The place of a path below the working directory; the places of absolute paths are under an
empty name. -/
def place (path : String) : List String :=
  let names := direct (names path)
  if isAbsolute path then "" :: names else names

/-- Whether a path ends in a slash. -/
def endsInSlash (path : String) : Bool := path.toList.getLast? == some '/'

/-- A path below a directory; an absolute path stands alone. -/
def join (base path : String) : String :=
  if isAbsolute path then path
  else if base.isEmpty || endsInSlash base then base ++ path
  else base ++ "/" ++ path

/-- A path without slashes at its end, except for the root. -/
def dropSlashes (cs : List Char) : List Char := (cs.reverse.dropWhile (· == '/')).reverse

/-- The path without its last name; empty for a single name. -/
def parent (path : String) : String :=
  let cs := dropSlashes path.toList
  let front := (cs.reverse.dropWhile (· != '/')).reverse
  let short := dropSlashes front
  String.ofList (if short.isEmpty && !front.isEmpty then ['/'] else short)

/-- What follows the last dot of a name, unless nothing stands before that dot. -/
def nameExtension? (name : String) : Option String :=
  let back := name.toList.reverse
  let tail := back.takeWhile (· != '.')
  match back.drop tail.length with
  | '.' :: _ :: _ => some (String.ofList tail.reverse)
  | _ => none

end SuiteRunner.Path

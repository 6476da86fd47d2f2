import SuiteRunner.Http.Host

/-!
  SuiteRunner.Http.Url
  ────────────────────────────────
  **ADDRESSES.**

  An address is read as browsers read it: blanks around it and line ends in it do not count,
  backslashes are slashes, dots in the path are resolved, and characters that cannot stand in an
  address are escaped.  What follows a number sign is not sent and not kept.  `ofText?` reads a
  whole address, and `join?` one that may leave out what it shares with another.
-/

namespace SuiteRunner.Http

/-- An address.  A port that goes without saying is not there, and a path has at least one name,
which is empty for the root. -/
structure Url where
  secure : Bool := false
  user : String := ""
  password : Option String := none
  host : Host
  port : Option Nat := none
  path : List String := [""]
  query : Option String := none
  deriving DecidableEq, Repr, Inhabited

namespace Url

/-! ## §1. Writing. -/

/-- The scheme. -/
def scheme (u : Url) : String := if u.secure then "https" else "http"

/-- The port that goes without saying. -/
def usualPort (secure : Bool) : Nat := if secure then 443 else 80

/-- The port to connect to. -/
def portNumber (u : Url) : Nat := u.port.getD (usualPort u.secure)

/-- The server of an address, with its port if that does not go without saying. -/
def authority (u : Url) : String :=
  u.host.render ++ (match u.port with
    | some p => ":" ++ toString p
    | none => "")

/-- What is asked of the server. -/
def resource (u : Url) : String :=
  String.join (u.path.map ("/" ++ ·)) ++ (match u.query with
    | some q => "?" ++ q
    | none => "")

/-- The text of an address, its user left out. -/
def render (u : Url) : String := u.scheme ++ "://" ++ u.authority ++ u.resource

/-- The address without its user. -/
def anonymous (u : Url) : Url := { u with user := "", password := none }

/-- Whether two addresses are of one server. -/
def sameServer (a b : Url) : Bool := a.host == b.host && a.portNumber == b.portNumber

/-! ## §2. Reading. -/

/-- Whether a character separates the names of a path. -/
def isSlash (c : Char) : Bool := c == '/' || c == '\\'

/-- Whether a character ends the name of the server. -/
def endsServer (c : Char) : Bool := isSlash c || c == '?' || c == '#'

/-- Whether a character does not count at the ends of an address. -/
def isMargin (c : Char) : Bool := c.toNat ≤ 0x20

/-- A text without its margins, tabs and line ends. -/
def tidy (cs : List Char) : List Char :=
  let cs := ((cs.dropWhile isMargin).reverse.dropWhile isMargin).reverse
  cs.filter fun c => c != '\t' && c != '\n' && c != '\r'

/-- A scheme in small letters, and what follows the colon. -/
def scheme? (cs : List Char) : Option (String × List Char) :=
  let word := cs.takeWhile fun c => c.isAlphanum || c == '+' || c == '-' || c == '.'
  match word, cs.drop word.length with
  | c :: _, ':' :: rest =>
    if c.isAlpha then some (LetterCase.asciiLower (String.ofList word), rest) else none
  | _, _ => none

/-- A user and what follows: all up to the last at sign. -/
def splitUser (cs : List Char) : Option (List Char) × List Char :=
  match cs.reverse.dropWhile (· != '@') with
  | [] => (none, cs)
  | _ :: front => (some front.reverse, cs.drop (front.length + 1))

/-- A host and the text of a port; a colon in brackets belongs to the host. -/
def splitPort : Bool → List Char → List Char × List Char
  | _, [] => ([], [])
  | inside, c :: rest =>
    if c == ':' && !inside then ([], rest)
    else
      let (host, port) := splitPort (if c == '[' then true else if c == ']' then false else inside) rest
      (c :: host, port)

/-- The port of a text, which may be empty. -/
def port? (secure : Bool) (cs : List Char) : Option (Option Nat) :=
  if cs.isEmpty then some none
  else if !cs.all isDigit || natOfDigits cs ≥ 0x10000 then none
  else some (if natOfDigits cs = usualPort secure then none else some (natOfDigits cs))

/-- Whether a name of a path means the same place. -/
def isHere (name : String) : Bool := name == "." || LetterCase.asciiLower name == "%2e"

/-- Whether a name of a path means the place above. -/
def isAbove (name : String) : Bool :=
  ["..", ".%2e", "%2e.", "%2e%2e"].contains (LetterCase.asciiLower name)

/-- Go along names from a place; a dot at the end leaves an empty name. -/
def walk : List String → List String → List String
  | place, [] => place
  | place, [last] =>
    if isAbove last then place.dropLast ++ [""]
    else if isHere last then place ++ [""] else place ++ [last]
  | place, name :: rest =>
    if isAbove name then walk place.dropLast rest
    else if isHere name then walk place rest else walk (place ++ [name]) rest

/-- The names between slashes, escaped. -/
def pathNames (cs : List Char) : List String :=
  let slashes := cs.map fun c => if isSlash c then '/' else c
  (Text.splitChars ['/'] slashes).map fun w => String.ofList (Percent.encode Percent.inPath w)

/-- The query of what follows a path. -/
def query? : List Char → Option String
  | '?' :: rest =>
    some (String.ofList (Percent.encode Percent.inQuery (rest.takeWhile (· != '#'))))
  | _ => none

/-- An address with the path and the query of a text, the path seen from a place. -/
def onward (u : Url) (place : List String) (cs : List Char) : Url :=
  let isPath (c : Char) : Bool := c != '?' && c != '#'
  { u with path := walk place (pathNames (cs.takeWhile isPath)),
           query := query? (cs.dropWhile isPath) }

/-- The path and the query after the name of a server. -/
def fromRoot (u : Url) (cs : List Char) : Url :=
  match cs with
  | c :: rest => onward u [] (if isSlash c then rest else c :: rest)
  | [] => onward u [] []

/-- A text of a user, escaped. -/
def userText (cs : List Char) : String := String.ofList (Percent.encode Percent.inUser cs)

/-- An address from the name of its server on. -/
def fromServer? (secure : Bool) (cs : List Char) : Option Url := do
  let server := cs.takeWhile fun c => !endsServer c
  let (user, place) := splitUser server
  let (host, port) := splitPort false place
  let host ← Host.ofChars? host
  let port ← port? secure port
  let u : Url := fromRoot { secure := secure, host := host, port := port } (cs.drop server.length)
  match user with
  | none => return u
  | some user =>
    match Text.splitOnceChars? ':' user with
    | none => return { u with user := userText user }
    | some (name, word) =>
      return { u with user := userText name,
                      password := if word.isEmpty then none else some (userText word) }

/-- An address that shares its scheme with another. -/
def fromScheme? (base : Url) (cs : List Char) : Option Url :=
  match cs with
  | [] => some base
  | '?' :: _ => some { base with query := query? cs }
  | '#' :: _ => some base
  | c :: d :: rest =>
    if isSlash c && isSlash d then fromServer? base.secure (rest.dropWhile isSlash)
    else if isSlash c then some (fromRoot base cs)
    else some (onward base base.path.dropLast cs)
  | cs => if cs.all isSlash then some (fromRoot base cs) else some (onward base base.path.dropLast cs)

/-- An address, which may leave out what it shares with another. -/
def ofChars? (base : Option Url) (cs : List Char) : Option Url :=
  match scheme? cs with
  | none => base.bind fun b => fromScheme? b cs
  | some (word, rest) =>
    if word != "http" && word != "https" then none
    else
      let secure := word == "https"
      let whole := fromServer? secure (rest.dropWhile isSlash)
      match base with
      | none => whole
      | some b =>
        if b.secure == secure && (rest.takeWhile isSlash).length < 2 then fromScheme? b rest
        else whole

/-- **A whole address.** -/
def ofText? (text : String) : Option Url := ofChars? none (tidy text.toList)

/-- **An address seen from another.** -/
def join? (base : Url) (text : String) : Option Url := ofChars? (some base) (tidy text.toList)

end Url

end SuiteRunner.Http

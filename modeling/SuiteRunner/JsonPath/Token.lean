import SuiteRunner.Text.Blank

/-!
  SuiteRunner.JsonPath.Token
  ────────────────────────────────
  **THE TOKENS OF A PATH.**

  A path is cut into tokens from the left.  Where no token can be cut the list ends with a fault,
  and whether that matters is for the parser: it looks at no token after those it needs.
-/

namespace SuiteRunner.JsonPath

/-- A token. -/
inductive Token where
  | root | dot | star | openBracket | closeBracket | at_ | openParen | closeParen
  | question | comma | colon | space
  | equal | notEqual | less | lessEq | greater | greaterEq | and_ | or_
  | key (text : String)
  | quoted (text : String)
  | fault
  deriving DecidableEq, Repr

namespace Token

/-- The tokens that are one character and nothing else. -/
def single? (c : Char) : Option Token :=
  match c with
  | '.' => some .dot
  | '*' => some .star
  | '[' => some .openBracket
  | ']' => some .closeBracket
  | '@' => some .at_
  | '(' => some .openParen
  | ')' => some .closeParen
  | '?' => some .question
  | ',' => some .comma
  | ':' => some .colon
  | _ => none

/-- The characters that end a key that begins with a dollar sign. -/
def endsDollarKey (c : Char) : Bool :=
  (single? c).isSome || c == '<' || c == '>' || c == '\'' || c == '"' || Text.isBlank c

/-- The characters that end any other key. -/
def endsKey (c : Char) : Bool :=
  endsDollarKey c || c == '$' || c == '=' || c == '&' || c == '|' || c == '!'

/-- A text without backslashes. -/
def withoutBackslashes (cs : List Char) : String := String.ofList (cs.filter (· != '\\'))

/-- The text up to the closing quote and what follows it.  A quote after a backslash does not
close the text, but only the first such quote is passed over. -/
def quotedText? (quote : Char) (cs : List Char) : Option (String × List Char) :=
  let first := cs.takeWhile (· != quote)
  match cs.dropWhile (· != quote) with
  | [] => none
  | _ :: rest =>
    if first.getLast? == some '\\' then
      let more := rest.takeWhile (· != quote)
      match more, rest.dropWhile (· != quote) with
      | _ :: _, _ :: tail => some (withoutBackslashes (first ++ quote :: more), tail)
      | _, _ => none
    else some (withoutBackslashes first, rest)

/-- The first token of a text that is not empty, and what follows it. -/
def next (c : Char) (rest : List Char) : Token × List Char :=
  match single? c with
  | some t => (t, rest)
  | none =>
    if c = '$' then
      match rest.takeWhile (fun d => !endsDollarKey d) with
      | [] => (.root, rest)
      | run => (.key (String.ofList (c :: run)), rest.dropWhile (fun d => !endsDollarKey d))
    else if c = '\'' ∨ c = '"' then
      match quotedText? c rest with
      | some (s, tail) => (.quoted s, tail)
      | none => (.fault, [])
    else if c = '=' then
      match rest with
      | '=' :: tail => (.equal, tail)
      | _ => (.fault, [])
    else if c = '!' then
      match rest with
      | '=' :: tail => (.notEqual, tail)
      | _ => (.fault, [])
    else if c = '&' then
      match rest with
      | '&' :: tail => (.and_, tail)
      | _ => (.fault, [])
    else if c = '|' then
      match rest with
      | '|' :: tail => (.or_, tail)
      | _ => (.fault, [])
    else if c = '<' then
      match rest with
      | '=' :: tail => (.lessEq, tail)
      | _ => (.less, rest)
    else if c = '>' then
      match rest with
      | '=' :: tail => (.greaterEq, tail)
      | _ => (.greater, rest)
    else if Text.isBlank c then (.space, rest.dropWhile Text.isBlank)
    else
      (.key (String.ofList (c :: rest.takeWhile (fun d => !endsKey d))),
        rest.dropWhile (fun d => !endsKey d))

/-- The tokens of a text, at most `fuel` of them. -/
def scan : Nat → List Char → List Token
  | _, [] => []
  | 0, _ => []
  | fuel + 1, c :: rest =>
    match next c rest with
    | (.fault, _) => [.fault]
    | (t, tail) => t :: scan fuel tail

/-- The tokens of a text. -/
def ofText (text : String) : List Token := scan text.toList.length text.toList

end Token

end SuiteRunner.JsonPath

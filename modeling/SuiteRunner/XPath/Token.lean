import SuiteRunner.Number.Reading
import SuiteRunner.Text.Split
import SuiteRunner.XPath.Expression
import SuiteRunner.Xml.Name

/-!
  SuiteRunner.XPath.Token
  ────────────────────────────────
  **THE TOKENS OF AN EXPRESSION.**

  What a star or a word means is decided by the token before it and by what follows: after a
  complete operand a star multiplies and a word is an operator; a word before two colons is an
  axis, before a parenthesis a kind of node or a function, and elsewhere a name.
-/

namespace SuiteRunner.XPath

/-- A token. -/
inductive Token where
  | slash | doubleSlash | openParen | closeParen | openBracket | closeBracket
  | at_ | dollar | dot | doubleDot | comma
  | number (x : Binary64)
  | literal (s : String)
  | operator (op : Operator)
  | axis (a : Axis)
  | kind (word : String)
  | function (name : String)
  | name (space? localPart? : Option String)
  deriving DecidableEq, Repr

namespace Token

/-- Whether an operand may end with a token. -/
def endsOperand : Token → Bool
  | .closeParen | .closeBracket | .dot | .doubleDot | .number _ | .literal _ | .name _ _ => true
  | _ => false

/-- The operator that is written as a word. -/
def operatorWord? (word : String) : Option Operator :=
  match word with
  | "and" => some .and_
  | "or" => some .or_
  | "div" => some .quotient
  | "mod" => some .remainder
  | _ => none

/-- The words that test the kind of a node. -/
def isKindWord (word : String) : Bool :=
  word == "node" || word == "text" || word == "comment" || word == "processing-instruction"

/-- A number at the start of a text: digits with at most one point. -/
def number? (cs : List Char) : Option (Binary64 × List Char) :=
  let whole := cs.takeWhile isDigit
  let rest := cs.dropWhile isDigit
  let (fraction, rest) := match rest with
    | '.' :: more => (more.takeWhile isDigit, more.dropWhile isDigit)
    | rest => ([], rest)
  if whole.isEmpty && fraction.isEmpty then none
  else some (.ofScientific false (natOfDigits (whole ++ fraction)) (-(fraction.length : Int)), rest)

/-- A name, a prefix with a star, or a star, as a test of names. -/
def nameTest? (cs : List Char) : Option (Token × List Char) :=
  match cs with
  | '*' :: rest => some (.name none none, rest)
  | _ =>
    match Xml.namePart? cs with
    | none => none
    | some (first, ':' :: '*' :: rest) => some (.name (some first) none, rest)
    | some (first, ':' :: rest) =>
      match Xml.namePart? rest with
      | some (second, rest) => some (.name (some first) (some second), rest)
      | none => none
    | some (first, rest) => some (.name none (some first), rest)

/-- A word where no operator can stand. -/
def word? (cs : List Char) : Option (Token × List Char) :=
  match Xml.namePart? cs with
  | none => nameTest? cs
  | some (first, rest) =>
    match Xml.skipSpace rest with
    | ':' :: ':' :: rest => (Axis.ofWord? first).map fun a => (.axis a, rest)
    | _ => do
      let (t, rest) ← nameTest? cs
      match Xml.skipSpace rest with
      | '(' :: more =>
        match t with
        | .name none (some f) =>
          if isKindWord f then some (.kind f, '(' :: more) else some (.function f, '(' :: more)
        | .name (some p) (some f) => some (.function (p ++ ":" ++ f), '(' :: more)
        | _ => none
      | _ => some (t, rest)

/-- A word after an operand. -/
def operator? (cs : List Char) : Option (Token × List Char) :=
  match cs with
  | '*' :: rest => some (.operator .times, rest)
  | _ =>
    match Xml.namePart? cs with
    | none => none
    | some (w, rest) => (operatorWord? w).map fun op => (.operator op, rest)

/-- The first token of a text that does not begin with a blank. -/
def next? (before : Option Token) (cs : List Char) : Option (Token × List Char) :=
  match cs with
  | '/' :: '/' :: rest => some (.doubleSlash, rest)
  | '/' :: rest => some (.slash, rest)
  | '(' :: rest => some (.openParen, rest)
  | ')' :: rest => some (.closeParen, rest)
  | '[' :: rest => some (.openBracket, rest)
  | ']' :: rest => some (.closeBracket, rest)
  | '@' :: rest => some (.at_, rest)
  | '$' :: rest => some (.dollar, rest)
  | ',' :: rest => some (.comma, rest)
  | '|' :: rest => some (.operator .union, rest)
  | '+' :: rest => some (.operator .plus, rest)
  | '-' :: rest => some (.operator .minus, rest)
  | '=' :: rest => some (.operator .equal, rest)
  | '!' :: '=' :: rest => some (.operator .notEqual, rest)
  | '<' :: '=' :: rest => some (.operator .lessEq, rest)
  | '<' :: rest => some (.operator .less, rest)
  | '>' :: '=' :: rest => some (.operator .greaterEq, rest)
  | '>' :: rest => some (.operator .greater, rest)
  | '.' :: '.' :: rest => some (.doubleDot, rest)
  | '"' :: rest => (Text.splitOnceChars? '"' rest).map fun (s, rest) => (.literal (String.ofList s), rest)
  | '\'' :: rest =>
    (Text.splitOnceChars? '\'' rest).map fun (s, rest) => (.literal (String.ofList s), rest)
  | _ =>
    match number? cs with
    | some (x, rest) => some (.number x, rest)
    | none =>
      match cs with
      | '.' :: rest => some (.dot, rest)
      | _ =>
        if (before.map endsOperand) == some true then operator? cs else word? cs

/-- The tokens of a text, at most `fuel` of them. -/
def scan? : Nat → Option Token → List Char → Option (List Token)
  | 0, _, cs => if (Xml.skipSpace cs).isEmpty then some [] else none
  | fuel + 1, before, cs =>
    match Xml.skipSpace cs with
    | [] => some []
    | cs => do
      let (t, rest) ← next? before cs
      let ts ← scan? fuel (some t) rest
      some (t :: ts)

/-- **The tokens of an expression.** -/
def ofText? (text : String) : Option (List Token) := scan? text.toList.length none text.toList

end Token

end SuiteRunner.XPath

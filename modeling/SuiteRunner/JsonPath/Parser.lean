import SuiteRunner.JsonPath.Query
import SuiteRunner.JsonPath.Token
import SuiteRunner.Number.Reading

/-!
  SuiteRunner.JsonPath.Parser
  ────────────────────────────────
  **READING A PATH.**

  A path starts with the root and goes on with dots and brackets; whatever follows the last of
  them is left unread.  A filter is a comparison of two terms, or the element under test alone,
  with `&&` and `||` between such parts, both grouping to the right.
-/

namespace SuiteRunner.JsonPath

/-- A parser: what it read and the tokens that follow, or nothing. -/
abbrev Parser (α : Type) := List Token → Option (α × List Token)

/-- The tokens without blanks at their start. -/
def skipSpaces : List Token → List Token
  | .space :: rest => skipSpaces rest
  | ts => ts

/-- An integer with an optional sign, of 64 bits. -/
def integerOfText? (s : String) : Option Int :=
  let (minus, digits) := match s.toList with
    | '-' :: ds => (true, ds)
    | '+' :: ds => (false, ds)
    | ds => (false, ds)
  if digits.isEmpty || !digits.all isDigit then none
  else
    let n : Int := natOfDigits digits
    let n := if minus then -n else n
    if -0x8000000000000000 ≤ n ∧ n < 0x8000000000000000 then some n else none

/-- The step of a range after a colon, where both may be missing. -/
def rangeStep (integer : String → Option α) (ts : List Token) : Option (Option α × List Token) :=
  match skipSpaces ts with
  | .colon :: rest =>
    match skipSpaces rest with
    | .key s :: rest => (integer s).map fun n => (some n, rest)
    | rest => some (none, rest)
  | ts => some (none, ts)

/-- The step of a range. -/
def stepOfText? (s : String) : Option Nat := natOfText? 0xffffffffffffffff s

/-- A range that starts at the beginning, after its colon. -/
def rangeToEnd (ts : List Token) : Option (Query × List Token) := do
  let (step, ts) ← rangeStep stepOfText? ts
  if step.isSome then return (.range none none step, ts)
  else match ts with
    | .closeBracket :: _ => return (.range none none none, ts)
    | .key s :: rest => do
      let stop ← integerOfText? s
      let (step, rest) ← rangeStep stepOfText? rest
      return (.range none (some stop) step, rest)
    | _ => none

/-- A range with a start, after its colon. -/
def rangeFrom (start : Int) (ts : List Token) : Option (Query × List Token) :=
  match skipSpaces ts with
  | .key s :: rest => do
    let stop ← integerOfText? s
    let (step, rest) ← rangeStep stepOfText? rest
    return (.range (some start) (some stop) step, rest)
  | .colon :: rest => do
    let (step, rest) ← rangeStep stepOfText? (.colon :: rest)
    return (.range (some start) none step, rest)
  | ts => some (.range (some start) none none, ts)

/-- Further positions, each after a comma. -/
def morePositions : List Token → List Int → Option (List Int × List Token)
  | .comma :: .space :: .key s :: rest, ns =>
    (integerOfText? s).bind fun n => morePositions rest (ns ++ [n])
  | .comma :: .key s :: rest, ns =>
    (integerOfText? s).bind fun n => morePositions rest (ns ++ [n])
  | .comma :: _, _ => none
  | ts, ns => some (ns, ts)

/-- Further keys, each after a comma. -/
def moreKeys (fuel : Nat) (ts : List Token) (names : List String) :
    Option (List String × List Token) :=
  match fuel, ts with
  | fuel + 1, .comma :: rest =>
    match skipSpaces rest with
    | .quoted s :: rest => moreKeys fuel (skipSpaces rest) (names ++ [s])
    | _ => none
  | _, ts => some (names, ts)

/-- A text in quotes, or several with commas between them. -/
def quotedKeys (s : String) (ts : List Token) : Option (Query × List Token) :=
  match ts with
  | .comma :: _ => (moreKeys ts.length ts [s]).map fun (names, rest) => (.keys names, rest)
  | _ => some (.key s, ts)

/-- A closing token after blanks. -/
def close (t : Token) (q : Query) (ts : List Token) : Option (Query × List Token) :=
  match skipSpaces ts with
  | u :: rest => if u = t then some (q, rest) else none
  | [] => none

/-- The operator of a comparison. -/
def comparison? : Token → Option Operator
  | .equal => some .equal
  | .notEqual => some .notEqual
  | .less => some .less
  | .lessEq => some .lessEq
  | .greater => some .greater
  | .greaterEq => some .greaterEq
  | _ => none

/-- A number in a filter: a key, and perhaps a dot and another key. -/
def numberTerm (s : String) (ts : List Token) : Option (Query × List Token) :=
  match ts with
  | .dot :: .key t :: rest => (Binary64.ofText? (s ++ "." ++ t)).map fun x => (.number x, rest)
  | .dot :: _ => none
  | _ => (Binary64.ofText? s).map fun x => (.number x, ts)

/-- A truth value in a filter: any key that begins like one, and only `true` is true. -/
def boolTerm (s : String) (ts : List Token) : Option (Query × List Token) :=
  match s.toList.head? with
  | some c =>
    if c = 't' ∨ c = 'T' ∨ c = 'f' ∨ c = 'F' then
      some (.bool (String.ofList (s.toList.map Char.toLower) == "true"), ts)
    else none
  | none => none

mutual
/-- Go on from what was read with dots and brackets. -/
def steps (fuel : Nat) (before : Query) (ts : List Token) : Option (Query × List Token) :=
  match fuel with
  | 0 => none
  | fuel + 1 =>
    match ts with
    | .dot :: rest => do
      let (q, rest) ← afterDot fuel before rest
      steps fuel q rest
    | .openBracket :: rest => do
      let (q, rest) ← brackets fuel before (skipSpaces rest)
      steps fuel q rest
    | ts => some (before, ts)

/-- What follows a dot. -/
def afterDot (fuel : Nat) (before : Query) (ts : List Token) : Option (Query × List Token) :=
  match fuel with
  | 0 => none
  | fuel + 1 =>
    match ts with
    | .dot :: .star :: rest => some (.descend before (some .all), rest)
    | .dot :: .openBracket :: rest => steps fuel (.descend before none) (.openBracket :: rest)
    | .dot :: .key k :: rest => some (.descend before (some (.key k)), rest)
    | .star :: rest => some (.child before .all, rest)
    | .key k :: rest => some (.child before (.key k), rest)
    | .openBracket :: rest => brackets fuel before rest
    | _ => none

/-- What is in brackets, and the closing one. -/
def brackets (fuel : Nat) (before : Query) (ts : List Token) : Option (Query × List Token) :=
  match fuel with
  | 0 => none
  | fuel + 1 => do
    let (part, rest) ← match ts with
      | .key s :: rest => do
        let n ← integerOfText? s
        match skipSpaces rest with
        | .comma :: more => do
          let (ns, rest) ← morePositions (.comma :: more) [n]
          some (.positions ns, rest)
        | .colon :: more => rangeFrom n more
        | rest => some (.number (.ofInt n), rest)
      | .colon :: rest => rangeToEnd rest
      | .quoted s :: rest => quotedKeys s rest
      | .star :: rest => some (.all, rest)
      | .question :: .openParen :: rest => do
        let (q, rest) ← tests fuel rest
        close .closeParen q rest
      | _ => none
    close .closeBracket (.bracket before part) rest

/-- The tests of a filter. -/
def tests (fuel : Nat) (ts : List Token) : Option (Query × List Token) :=
  match fuel with
  | 0 => none
  | fuel + 1 => do
    let (q, rest) ← match skipSpaces ts with
      | .openParen :: rest => do
        let (q, rest) ← tests fuel rest
        close .closeParen q rest
      | ts => test fuel ts
    match skipSpaces rest with
    | .and_ :: rest => do
      let (r, rest) ← tests fuel rest
      some (.test .and_ q r, rest)
    | .or_ :: rest => do
      let (r, rest) ← tests fuel rest
      some (.test .or_ q r, rest)
    | rest => some (q, rest)

/-- One test: a comparison, or the element under test alone. -/
def test (fuel : Nat) (ts : List Token) : Option (Query × List Token) :=
  match fuel with
  | 0 => none
  | fuel + 1 => do
    let (left, rest) ← term fuel ts
    match skipSpaces rest with
    | t :: more =>
      match comparison? t with
      | some op => do
        let (right, rest) ← term fuel (skipSpaces more)
        some (.test op left right, rest)
      | none => if ts.head? = some .at_ then some (left, t :: more) else none
    | [] => if ts.head? = some .at_ then some (left, []) else none

/-- A term of a comparison. -/
def term (fuel : Nat) (ts : List Token) : Option (Query × List Token) :=
  match fuel with
  | 0 => none
  | fuel + 1 =>
    match ts with
    | .at_ :: .space :: rest => some (.element, skipSpaces rest)
    | .at_ :: rest => steps fuel .element rest
    | .root :: rest => steps fuel .root rest
    | .quoted s :: rest => quotedKeys s rest
    | .key s :: rest =>
      match s.toList.head? with
      | some c => if c = '-' || isDigit c then numberTerm s rest else boolTerm s rest
      | none => none
    | _ => none
end

/-- **The tree of a path,** if it can be read. -/
def parse? (path : String) : Option Query :=
  let ts := Token.ofText path
  match ts with
  | .root :: rest => (steps (4 * ts.length + 4) .root rest).map Prod.fst
  | _ => none

end SuiteRunner.JsonPath

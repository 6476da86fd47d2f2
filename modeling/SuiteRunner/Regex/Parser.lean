import SuiteRunner.Number.Reading
import SuiteRunner.Regex.Pattern

/-!
  SuiteRunner.Regex.Parser
  ────────────────────────────────
  **READING A PATTERN.**

  The notation has no look-around and no references to groups.  Flags given in parentheses hold
  until the end of the group they stand in.  A repetition needs something to repeat, a brace
  begins a count, and only known letters may follow a backslash.
-/

namespace SuiteRunner.Regex

/-- The flags in force. -/
structure Flags where
  anyCase : Bool := false
  multiLine : Bool := false
  dotAll : Bool := false
  verbose : Bool := false
  anyLineEnd : Bool := false
  unicode : Bool := true
  deriving DecidableEq, Repr, Inhabited

namespace Parser

/-! ## §1. Small parts. -/

/-- In verbose patterns blanks and comments do not count. -/
def skipBlanks (verbose : Bool) : Nat → List Char → List Char
  | 0, cs => cs
  | _, [] => []
  | fuel + 1, c :: rest =>
    if !verbose then c :: rest
    else if Text.isBlank c then skipBlanks verbose fuel rest
    else if c = '#' then skipBlanks verbose fuel (rest.dropWhile (· != '\n'))
    else c :: rest

/-- Skip what does not count under some flags. -/
def skip (f : Flags) (cs : List Char) : List Char := skipBlanks f.verbose (cs.length + 1) cs

/-- The number of hexadecimal digits, which must be a character. -/
def hexChar? (ds : List Char) : Option Char :=
  if ds.isEmpty || ds.length > 8 then none
  else
    match ds.mapM hexDigitOf? with
    | none => none
    | some ns =>
      let n := ns.foldl (fun a d => 16 * a + d) 0
      if n < 0xd800 ∨ (0xdfff < n ∧ n < 0x110000) then some (Char.ofNat n) else none

/-- A character by its number: braces around any digits, or exactly `count` digits. -/
def hexEscape (count : Nat) (cs : List Char) : Option (Char × List Char) :=
  match cs with
  | '\x7b' :: rest =>
    let ds := rest.takeWhile (· != '\x7d')
    match rest.dropWhile (· != '\x7d') with
    | _ :: tail => (hexChar? ds).map fun c => (c, tail)
    | [] => none
  | cs => if cs.length < count then none else (hexChar? (cs.take count)).map fun c => (c, cs.drop count)

/-- What an escape stands for. -/
inductive Escape where
  | char (c : Char)
  | set (s : CharSet)
  | look (l : Look)

/-- Characters that may be escaped to stand for themselves. -/
def isEscapable (c : Char) : Bool :=
  c.toNat < 128 && !c.isAlphanum && c != '<' && c != '>'

/-- The words of one class, in Unicode or in ASCII. -/
def perlSet (f : Flags) (unicode : CharSet) (ascii : String) : CharSet :=
  if f.unicode then unicode else .ranges ((asciiClass? ascii).getD []) false

/-- A class by name, after `p` or `P`. -/
def classEscape (f : Flags) (negated : Bool) (cs : List Char) : Option (Escape × List Char) :=
  let finish (s : Option CharSet) (rest : List Char) : Option (Escape × List Char) :=
    s.map fun s =>
      let s := if f.anyCase then s.withAnyCase else s
      (.set (s.signed negated), rest)
  match cs with
  | '\x7b' :: rest =>
    match rest.dropWhile (· != '\x7d') with
    | _ :: tail =>
      let name := rest.takeWhile (· != '\x7d')
      match name with
      | '^' :: name =>
        (namedSet? name).bind fun s =>
          let s := if f.anyCase then s.withAnyCase else s
          some (.set (s.signed (!negated)), tail)
      | name => finish (namedSet? name) tail
    | [] => none
  | c :: rest => finish (namedSet? [c]) rest
  | [] => none

/-- A boundary by name, after `b` and an opening brace. -/
def namedBoundary? (name : String) : Option Look :=
  match name with
  | "start" => some .wordStart
  | "end" => some .wordEnd
  | "start-half" => some .wordStartHalf
  | "end-half" => some .wordEndHalf
  | _ => none

/-- An escape, after its backslash. -/
def escape (f : Flags) (cs : List Char) : Option (Escape × List Char) :=
  match cs with
  | [] => none
  | c :: rest =>
    match c with
    | 'd' => some (.set (perlSet f .digit "digit"), rest)
    | 'D' => some (.set (.compl (perlSet f .digit "digit")), rest)
    | 's' => some (.set (perlSet f .blank "space"), rest)
    | 'S' => some (.set (.compl (perlSet f .blank "space")), rest)
    | 'w' => some (.set (perlSet f .word "word"), rest)
    | 'W' => some (.set (.compl (perlSet f .word "word")), rest)
    | 'p' => classEscape f false rest
    | 'P' => classEscape f true rest
    | 'a' => some (.char (Char.ofNat 7), rest)
    | 'f' => some (.char (Char.ofNat 12), rest)
    | 't' => some (.char '\t', rest)
    | 'n' => some (.char '\n', rest)
    | 'r' => some (.char '\r', rest)
    | 'v' => some (.char (Char.ofNat 11), rest)
    | 'A' => some (.look .textStart, rest)
    | 'z' => some (.look .textEnd, rest)
    | 'b' =>
      match rest with
      | '\x7b' :: more =>
        let name := more.takeWhile fun d => d.isAlpha || d == '-'
        match name, more.drop name.length with
        | _ :: _, '\x7d' :: tail =>
          (namedBoundary? (String.ofList name)).map fun l => (.look l, tail)
        | _ :: _, _ => none
        | [], _ => some (.look .wordBoundary, rest)
      | rest => some (.look .wordBoundary, rest)
    | 'B' => some (.look .notWordBoundary, rest)
    | '<' => some (.look .wordStart, rest)
    | '>' => some (.look .wordEnd, rest)
    | 'x' => (hexEscape 2 rest).map fun (d, tail) => (.char d, tail)
    | 'u' => (hexEscape 4 rest).map fun (d, tail) => (.char d, tail)
    | 'U' => (hexEscape 8 rest).map fun (d, tail) => (.char d, tail)
    | c => if isEscapable c then some (.char c, rest) else none

/-! ## §2. Sets in brackets. -/

/-- A class between colons, after its opening bracket: its name and whether it is negated. -/
def colonClass (cs : List Char) : Option (CharSet × List Char) :=
  match cs with
  | ':' :: rest =>
    let (negated, rest) := match rest with
      | '^' :: more => (true, more)
      | more => (false, more)
    let name := rest.takeWhile fun c => c.isAlpha
    match rest.drop name.length with
    | ':' :: ']' :: tail =>
      (asciiClass? (String.ofList name)).map fun rs =>
        ((CharSet.ranges rs false).signed negated, tail)
    | _ => none
  | _ => none

/-- One end of a range in brackets: a character, or a set that cannot be an end. -/
def setAtom (f : Flags) (cs : List Char) : Option (Escape × List Char) :=
  match cs with
  | [] => none
  | '\\' :: rest =>
    match escape f rest with
    | some (.look _, _) => none
    | other => other
  | c :: rest => some (.char c, rest)

/-- The operators between sets. -/
inductive SetOp where
  | inter | diff | symDiff

/-- The result of an operator. -/
def SetOp.run (op : SetOp) (a b : CharSet) : CharSet :=
  match op with
  | .inter => .inter a b
  | .diff => CharSet.diff a b
  | .symDiff => CharSet.symDiff a b

/-- Operands and operators so far, combined from the left. -/
def combine (done : Option (CharSet × SetOp)) (s : CharSet) : CharSet :=
  match done with
  | none => s
  | some (a, op) => op.run a s

mutual
/-- A set after its opening bracket. -/
def bracketSet (fuel : Nat) (f : Flags) (cs : List Char) : Option (CharSet × List Char) :=
  match fuel with
  | 0 => none
  | fuel + 1 => do
    let cs := skip f cs
    let (negated, cs) := match cs with
      | '^' :: rest => (true, skip f rest)
      | cs => (false, cs)
    let dashes := cs.takeWhile (· == '-')
    let first := CharSet.ranges (dashes.map fun _ => (0x2d, 0x2d)) false
    let cs := skip f (cs.drop dashes.length)
    let (first, cs) := match dashes, cs with
      | [], ']' :: rest => (CharSet.union first (.single ']' false), rest)
      | _, cs => (first, cs)
    let (s, rest) ← setItems fuel f none first cs
    return (s.signed negated, rest)

/-- The items of a set, up to its closing bracket; `acc` is the union of those since the last
operator. -/
def setItems (fuel : Nat) (f : Flags) (done : Option (CharSet × SetOp)) (acc : CharSet)
    (cs : List Char) : Option (CharSet × List Char) :=
  match fuel with
  | 0 => none
  | fuel + 1 =>
    match skip f cs with
    | [] => none
    | ']' :: rest => some (combine done acc, rest)
    | '&' :: '&' :: rest => setItems fuel f (some (combine done acc, .inter)) .none rest
    | '-' :: '-' :: rest => setItems fuel f (some (combine done acc, .diff)) .none rest
    | '~' :: '~' :: rest => setItems fuel f (some (combine done acc, .symDiff)) .none rest
    | '[' :: rest =>
      match colonClass rest with
      | some (s, tail) =>
        let s := if f.anyCase then s.withAnyCase else s
        setItems fuel f done (.union acc s) tail
      | none => do
        let (s, tail) ← bracketSet fuel f rest
        setItems fuel f done (.union acc s) tail
    | cs => do
      let (a, rest) ← setAtom f cs
      let rest' := skip f rest
      let isRange := match rest' with
        | '-' :: more =>
          match skip f more with
          | ']' :: _ => false
          | '-' :: _ => false
          | _ => true
        | _ => false
      if isRange then
        let (b, tail) ← setAtom f (skip f (rest'.drop 1))
        match a, b with
        | .char lo, .char hi =>
          if hi.toNat < lo.toNat then none
          else setItems fuel f done (.union acc (.ranges [(lo.toNat, hi.toNat)] f.anyCase)) tail
        | _, _ => none
      else
        match a with
        | .char c => setItems fuel f done (.union acc (.single c f.anyCase)) rest
        | .set s => setItems fuel f done (.union acc s) rest
        | .look _ => none
end

/-! ## §3. Repetition. -/

/-- A decimal number of at most 32 bits, with blanks around it. -/
def count? (cs : List Char) : Option (Nat × List Char) :=
  let cs := cs.dropWhile Text.isBlank
  let ds := cs.takeWhile isDigit
  let n := natOfDigits ds
  if ds.isEmpty || n > 0xffffffff then none
  else some (n, (cs.drop ds.length).dropWhile Text.isBlank)

/-- A count after its opening brace. -/
def bounds (cs : List Char) : Option (Nat × Option Nat × List Char) := do
  let (n, rest) ← count? cs
  match rest with
  | '\x7d' :: rest => return (n, some n, rest)
  | ',' :: rest =>
    match rest.dropWhile Text.isBlank with
    | '\x7d' :: rest => return (n, none, rest)
    | rest => do
      let (m, rest) ← count? rest
      match rest with
      | '\x7d' :: rest => if m < n then none else return (n, some m, rest)
      | _ => none
  | _ => none

/-- A question mark after a repetition asks for the shortest match, which changes nothing here. -/
def skipLazy (f : Flags) (cs : List Char) : List Char :=
  match skip f cs with
  | '?' :: rest => rest
  | _ => cs

/-! ## §4. Groups. -/

/-- Flags as they are written, up to the colon or the closing parenthesis. -/
def flagsFrom (f : Flags) (on : Bool) (any : Bool) : List Char → Option (Flags × List Char)
  | [] => none
  | ':' :: rest => if on || any then some (f, ':' :: rest) else none
  | ')' :: rest => if on || any then some (f, ')' :: rest) else none
  | '-' :: rest => if on then flagsFrom f false false rest else none
  | c :: rest =>
    match c with
    | 'i' => flagsFrom { f with anyCase := on } on true rest
    | 'm' => flagsFrom { f with multiLine := on } on true rest
    | 's' => flagsFrom { f with dotAll := on } on true rest
    | 'x' => flagsFrom { f with verbose := on } on true rest
    | 'R' => flagsFrom { f with anyLineEnd := on } on true rest
    | 'u' => flagsFrom { f with unicode := on } on true rest
    | 'U' => flagsFrom f on true rest
    | _ => none

/-- Whether a flag is written twice. -/
def repeatsFlag (cs : List Char) : Bool :=
  let run := cs.takeWhile fun c => c != ':' && c != ')'
  run.any fun c => run.countP (· == c) > 1

/-- A group name after its opening angle bracket, and what follows the closing one. -/
def groupName (cs : List Char) : Option (String × List Char) :=
  let name := cs.takeWhile (· != '>')
  match name, cs.dropWhile (· != '>') with
  | c :: more, '>' :: rest =>
    let startOk := c == '_' || c.isAlpha || c.toNat ≥ 128
    let ok (d : Char) : Bool :=
      d == '_' || d == '.' || d == '[' || d == ']' || d.isAlphanum || d.toNat ≥ 128
    if startOk && more.all ok then some (String.ofList name, rest) else none
  | _, _ => none

/-- The items of a sequence so far, latest first; a flag setting is no item that can be repeated. -/
abbrev Items := List (Option Pattern)

/-- The items in order as one pattern. -/
def sequence (items : Items) : Pattern :=
  items.foldl (fun acc p =>
    match p with
    | none => acc
    | some p => match acc with
      | .empty => p
      | acc => .seq p acc) .empty

/-- The condition of a caret. -/
def caret (f : Flags) : Look :=
  if !f.multiLine then .textStart else if f.anyLineEnd then .lineStartAny else .lineStart

/-- The condition of a dollar sign. -/
def dollar (f : Flags) : Look :=
  if !f.multiLine then .textEnd else if f.anyLineEnd then .lineEndAny else .lineEnd

/-- The set of a dot. -/
def dot (f : Flags) : CharSet :=
  if f.dotAll then .compl .none
  else if f.anyLineEnd then .compl (.ranges [(10, 10), (13, 13)] false)
  else .compl (.ranges [(10, 10)] false)

/-- What was read of a pattern: names of groups, and the pattern with what follows it. -/
structure Read where
  names : List String
  pattern : Pattern
  rest : List Char

mutual
/-- Alternatives up to a closing parenthesis or the end. -/
def alternatives (fuel : Nat) (f : Flags) (names : List String) (before : Option Pattern)
    (items : Items) (cs : List Char) : Option Read :=
  match fuel with
  | 0 => none
  | fuel + 1 =>
    let finish : Pattern :=
      match before with
      | none => sequence items
      | some p => .alt p (sequence items)
    let repeated (least : Nat) (most : Option Nat) (rest : List Char) : Option Read :=
      match items with
      | some p :: more =>
        alternatives fuel f names before (some (.many least most p) :: more) (skipLazy f rest)
      | _ => none
    let item (p : Pattern) (rest : List Char) : Option Read :=
      alternatives fuel f names before (some p :: items) rest
    match skip f cs with
    | [] => some ⟨names, finish, []⟩
    | ')' :: rest => some ⟨names, finish, ')' :: rest⟩
    | '|' :: rest => alternatives fuel f names (some finish) [] rest
    | '(' :: rest => group fuel f names before items rest
    | '[' :: rest => do
      let (s, tail) ← bracketSet fuel f rest
      item (.char s) tail
    | '*' :: rest => repeated 0 none rest
    | '+' :: rest => repeated 1 none rest
    | '?' :: rest => repeated 0 (some 1) rest
    | '\x7b' :: rest => do
      let (least, most, tail) ← bounds rest
      repeated least most tail
    | '.' :: rest => item (.char (dot f)) rest
    | '^' :: rest => item (.look (caret f)) rest
    | '$' :: rest => item (.look (dollar f)) rest
    | '\\' :: rest => do
      let (e, tail) ← escape f rest
      match e with
      | .char c => item (.char (.single c f.anyCase)) tail
      | .set s => item (.char s) tail
      | .look l => item (.look l) tail
    | c :: rest => item (.char (.single c f.anyCase)) rest

/-- A group after its opening parenthesis. -/
def group (fuel : Nat) (f : Flags) (names : List String) (before : Option Pattern)
    (items : Items) (cs : List Char) : Option Read :=
  match fuel with
  | 0 => none
  | fuel + 1 =>
    let body (g : Flags) (names : List String) (rest : List Char) : Option Read := do
      let inner ← alternatives fuel g names none [] rest
      match inner.rest with
      | ')' :: rest => alternatives fuel f inner.names before (some inner.pattern :: items) rest
      | _ => none
    let named (rest : List Char) : Option Read := do
      let (name, rest) ← groupName rest
      if names.contains name then none else body f (name :: names) rest
    match cs with
    | '?' :: 'P' :: '<' :: rest => named rest
    | '?' :: '<' :: '=' :: _ => none
    | '?' :: '<' :: '!' :: _ => none
    | '?' :: '<' :: rest => named rest
    | '?' :: rest =>
      if repeatsFlag rest then none
      else match rest with
        | ':' :: rest => body f names rest
        | ')' :: _ => none
        | rest => do
          let (g, rest) ← flagsFrom f true false rest
          match rest with
          | ':' :: rest => body g names rest
          | ')' :: rest => alternatives fuel g names before (none :: items) rest
          | _ => none
    | rest => body f names rest
end

end Parser

/-- The room that a compiled pattern may take, in bytes. -/
def weightLimit : Nat := 10 * 0x100000

/-- **The pattern of a text,** if the text is one and the pattern is not too large. -/
def parse? (text : String) : Option Pattern := do
  let cs := text.toList
  let r ← Parser.alternatives (4 * cs.length + 4) {} [] none [] cs
  if r.rest.isEmpty && r.pattern.weight ≤ weightLimit then some r.pattern else none

end SuiteRunner.Regex

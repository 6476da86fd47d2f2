import SuiteRunner.Json.Value
import SuiteRunner.Number.Reading

/-!
  SuiteRunner.Json.Reading
  ────────────────────────────────
  **READING DOCUMENTS, WITH THE FAULTS LEFT IN PLACE.**

  `Reading.ofText` turns any text into a tree.  A fault of the text does not end the reading: it
  is kept where it stands, so that a decoder that walks the tree in the order of the text meets
  faults of form and faults of type in that order.  The parts that a decoder skips are held to
  weaker rules (no surrogate pairs, no number ranges, no limit of depth), so every fault that
  stops the reading carries two causes, one for a decoder that wants the value there and one for
  a decoder that skips it.

  `Json.parse` is the decoder that wants every value.
-/

namespace SuiteRunner

/-! ## §1. Faults of form. -/

/-- What is wrong with the form of a document. -/
inductive SyntaxError where
  | eofValue | eofList | eofObject | eofString
  | expectedValue | expectedIdent | expectedColon
  | expectedCommaOrBracket | expectedCommaOrBrace
  | trailingComma | trailingCharacters | keyNotString
  | invalidNumber | numberOutOfRange
  | controlCharacter | invalidEscape | loneSurrogate | unexpectedEndOfHexEscape
  | recursionLimit
  deriving DecidableEq, Repr

/-- The text of a fault. -/
def SyntaxError.message : SyntaxError → String
  | .eofValue => "EOF while parsing a value"
  | .eofList => "EOF while parsing a list"
  | .eofObject => "EOF while parsing an object"
  | .eofString => "EOF while parsing a string"
  | .expectedValue => "expected value"
  | .expectedIdent => "expected ident"
  | .expectedColon => "expected `:`"
  | .expectedCommaOrBracket => "expected `,` or `]`"
  | .expectedCommaOrBrace => "expected `,` or `\x7d`"
  | .trailingComma => "trailing comma"
  | .trailingCharacters => "trailing characters"
  | .keyNotString => "key must be a string"
  | .invalidNumber => "invalid number"
  | .numberOutOfRange => "number out of range"
  | .controlCharacter => "control character (\\u0000-\\u001F) found while parsing a string"
  | .invalidEscape => "invalid escape"
  | .loneSurrogate => "lone leading surrogate in hex escape"
  | .unexpectedEndOfHexEscape => "unexpected end of hex escape"
  | .recursionLimit => "recursion limit exceeded"

/-- A fault that stops the reading, as it is met by a decoder that wants the value (`wanted`) and
by one that skips it (`skipped`). -/
structure Stop where
  wanted : SyntaxError
  skipped : SyntaxError
  deriving DecidableEq, Repr

/-- A fault that is the same for both. -/
def Stop.both (e : SyntaxError) : Stop := ⟨e, e⟩

/-! ## §2. Trees. -/

/-- How a list or an object ends. -/
inductive Ending where
  | closed
  | cut (stop : Stop)
  deriving DecidableEq, Repr

/-- How a decoder that wants every part meets the end of a list or an object. -/
def Ending.check : Ending → Except SyntaxError Unit
  | .closed => .ok ()
  | .cut stop => .error stop.wanted

/-- A document as it was read. -/
inductive Reading where
  | null
  | bool (b : Bool)
  | num (n : Except SyntaxError Json.Number)
  | str (s : Except SyntaxError String)
  | arr (items : List Reading) (ending : Ending)
  | obj (members : List (Except SyntaxError String × Reading)) (ending : Ending)
  | broken (stop : Stop)
  deriving Inhabited

namespace Reading

/-! ## §3. Strings. -/

/-- Four hexadecimal digits and what follows them.  A text of fewer than four bytes has ended. -/
def hexEscape (cs : List Char) : Except SyntaxError (Nat × List Char) :=
  match cs with
  | a :: b :: c :: d :: rest =>
    match hexDigitOf? a, hexDigitOf? b, hexDigitOf? c, hexDigitOf? d with
    | some a, some b, some c, some d => .ok (((a * 16 + b) * 16 + c) * 16 + d, rest)
    | _, _, _, _ => .error .invalidEscape
  | short =>
    if (short.foldl (fun n c => n + c.utf8Size) 0) < 4 then .error .eofString
    else .error .invalidEscape

/-- The character after a backslash, where it is not `u`. -/
def simpleEscape? (c : Char) : Option Char :=
  if c = '"' ∨ c = '\\' ∨ c = '/' then some c
  else if c = 'b' then some (Char.ofNat 8)
  else if c = 'f' then some (Char.ofNat 12)
  else if c = 'n' then some '\n'
  else if c = 'r' then some '\r'
  else if c = 't' then some '\t'
  else none

/-- The character of a unicode escape, of which the four digits were read as `n`; a leading
surrogate asks for a second escape. -/
def unicodeEscape (n : Nat) (rest : List Char) : Except SyntaxError (Char × List Char) :=
  if 0xdc00 ≤ n ∧ n ≤ 0xdfff then .error .loneSurrogate
  else if n < 0xd800 ∨ 0xdbff < n then .ok (Char.ofNat n, rest)
  else match rest with
    | [] => .error .eofString
    | ['\\'] => .error .eofString
    | '\\' :: 'u' :: more =>
      match hexEscape more with
      | .error e => .error e
      | .ok (low, more) =>
        if low < 0xdc00 ∨ 0xdfff < low then .error .loneSurrogate
        else .ok (Char.ofNat (0x10000 + (n - 0xd800) * 0x400 + (low - 0xdc00)), more)
    | _ => .error .unexpectedEndOfHexEscape

/-- The text up to the closing quote, and what follows the quote; `acc` holds it backwards. -/
def stringBody (fuel : Nat) (acc : List Char) (cs : List Char) :
    Except SyntaxError (List Char × List Char) :=
  match fuel, cs with
  | 0, _ => .error .eofString
  | _, [] => .error .eofString
  | fuel + 1, c :: rest =>
    if c = '"' then .ok (acc.reverse, rest)
    else if c = '\\' then
      match rest with
      | [] => .error .eofString
      | 'u' :: more =>
        match hexEscape more with
        | .error e => .error e
        | .ok (n, more) =>
          match unicodeEscape n more with
          | .error e => .error e
          | .ok (d, more) => stringBody fuel (d :: acc) more
      | d :: more =>
        match simpleEscape? d with
        | some d => stringBody fuel (d :: acc) more
        | none => .error .invalidEscape
    else if c.toNat < 32 then .error .controlCharacter
    else stringBody fuel (c :: acc) rest

/-- What follows the closing quote of a string that is skipped. -/
def skipString (fuel : Nat) (cs : List Char) : Except SyntaxError (List Char) :=
  match fuel, cs with
  | 0, _ => .error .eofString
  | _, [] => .error .eofString
  | fuel + 1, c :: rest =>
    if c = '"' then .ok rest
    else if c = '\\' then
      match rest with
      | [] => .error .eofString
      | 'u' :: more =>
        match hexEscape more with
        | .error e => .error e
        | .ok (_, more) => skipString fuel more
      | d :: more => if (simpleEscape? d).isSome then skipString fuel more else .error .invalidEscape
    else if c.toNat < 32 then .error .controlCharacter
    else skipString fuel rest

/-- A token that was read in both ways: its value if wanted, and what follows it. -/
inductive Token (α : Type) where
  | read (value : Except SyntaxError α) (rest : List Char)
  | stopped (stop : Stop)

/-- Put the two ways of reading a token together. -/
def Token.of {α : Type} (wanted : Except SyntaxError (α × List Char))
    (skipped : Except SyntaxError (List Char)) : Token α :=
  match wanted, skipped with
  | .ok (a, rest), _ => .read (.ok a) rest
  | .error e, .ok rest => .read (.error e) rest
  | .error e, .error f => .stopped ⟨e, f⟩

/-- A string after its opening quote. -/
def stringToken (cs : List Char) : Token String :=
  let fuel := cs.length + 1
  Token.of ((stringBody fuel [] cs).map fun (s, rest) => (String.ofList s, rest)) (skipString fuel cs)

/-! ## §4. Numbers. -/

/-- The greatest significand that is read digit by digit. -/
def significandTop : Nat := 0xffffffffffffffff

/-- The double `10 ^ n`, for powers within range. -/
def powerOfTen (n : Nat) : Binary64 := .ofRatio false (Nat.pow 10 n) 1

/-- `± significand * 10 ^ exponent`, computed in doubles: the significand is rounded first and then
multiplied or divided by a rounded power of ten, in steps of `1e308` for very small numbers. -/
def assemble (neg : Bool) (significand : Nat) (exponent : Int) :
    Except SyntaxError Binary64 :=
  let start := Binary64.ofRatio false significand 1
  let signed (x : Binary64) : Binary64 := if neg then x.neg else x
  if exponent ≥ 0 then
    if exponent ≤ 308 then
      match start.mul (powerOfTen exponent.toNat) with
      | .inf _ => .error .numberOutOfRange
      | x => .ok (signed x)
    else if start.isZero then .ok (signed start)
    else .error .numberOutOfRange
  else .ok (signed (shrink 4 start (-exponent).toNat))
where
  /-- Division by `10 ^ n`; after four steps nothing is left of any significand. -/
  shrink : Nat → Binary64 → Nat → Binary64
    | 0, x, _ => x
    | fuel + 1, x, n =>
      if n ≤ 308 then x.div (powerOfTen n)
      else if x.isZero then x
      else shrink fuel (x.div (powerOfTen 308)) (n - 308)

/-- The greatest exponent that is read digit by digit. -/
def exponentTop : Nat := 0x7fffffff

/-- The digits after `e` and its sign. -/
def readExponent (neg : Bool) (significand : Nat) (start : Int) (cs : List Char) :
    Except SyntaxError (Binary64 × List Char) :=
  let (minus, cs) := match cs with
    | '+' :: rest => (false, rest)
    | '-' :: rest => (true, rest)
    | cs => (false, cs)
  match cs with
  | [] => .error .eofValue
  | c :: _ =>
    if !isDigit c then .error .invalidNumber
    else
      let ds := cs.takeWhile isDigit
      let rest := cs.dropWhile isDigit
      let n := natOfDigits ds
      if n > exponentTop then
        if significand ≠ 0 ∧ !minus then .error .numberOutOfRange
        else .ok (.zero neg, rest)
      else
        let e : Int := start + (if minus then -(n : Int) else n)
        (assemble neg significand e).map fun x => (x, rest)

/-- The digits of a run that keep the significand within its top, and how many there were. -/
def growSignificand (significand : Nat) : List Char → Nat × Nat
  | [] => (significand, 0)
  | c :: rest =>
    let next := 10 * significand + (digitOf? c).getD 0
    if next > significandTop then (significand, 0)
    else
      let (s, n) := growSignificand next rest
      (s, n + 1)

/-- What follows the whole part of a number whose value is `significand * 10 ^ start`. -/
def readFraction (neg : Bool) (significand : Nat) (start : Int) (cs : List Char) :
    Except SyntaxError (Binary64 × List Char) :=
  let ds := cs.takeWhile isDigit
  let rest := cs.dropWhile isDigit
  if ds.isEmpty then .error (if rest.isEmpty then .eofValue else .invalidNumber)
  else
    let (s, taken) := growSignificand significand ds
    let e := start - taken
    match rest with
    | c :: more =>
      if c = 'e' ∨ c = 'E' then readExponent neg s e more
      else (assemble neg s e).map fun x => (x, rest)
    | [] => (assemble neg s e).map fun x => (x, rest)

/-- A number after its minus sign. -/
def readNumber (neg : Bool) (cs : List Char) :
    Except SyntaxError (Json.Number × List Char) :=
  match cs with
  | [] => .error .eofValue
  | c :: _ =>
    if !isDigit c then .error .invalidNumber
    else
      let ds := cs.takeWhile isDigit
      let rest := cs.dropWhile isDigit
      if c = '0' ∧ ds.length > 1 then .error .invalidNumber
      else
        let (s, taken) := growSignificand 0 ds
        let dropped : Int := (ds.length : Int) - taken
        let asDouble (r : Except SyntaxError (Binary64 × List Char)) :
            Except SyntaxError (Json.Number × List Char) :=
          r.map fun (x, rest) => (.float x, rest)
        match rest with
        | '.' :: more => asDouble (readFraction neg s dropped more)
        | 'e' :: more => asDouble (readExponent neg s dropped more)
        | 'E' :: more => asDouble (readExponent neg s dropped more)
        | rest =>
          if dropped > 0 then asDouble ((assemble neg s dropped).map fun x => (x, rest))
          else if !neg then .ok (.int s, rest)
          else if 1 ≤ s ∧ s ≤ 0x8000000000000000 then .ok (.int (-(s : Int)), rest)
          else .ok (.float ((Binary64.ofRatio false s 1).neg), rest)

/-- What follows the exponent of a number that is skipped. -/
def skipExponent (cs : List Char) : Except SyntaxError (List Char) :=
  let cs := match cs with
    | '+' :: rest => rest
    | '-' :: rest => rest
    | cs => cs
  if (cs.takeWhile isDigit).isEmpty then .error .invalidNumber else .ok (cs.dropWhile isDigit)

/-- What follows a number that is skipped, after its minus sign. -/
def skipNumber (cs : List Char) : Except SyntaxError (List Char) :=
  let ds := cs.takeWhile isDigit
  let rest := cs.dropWhile isDigit
  if ds.isEmpty || (ds.head? == some '0' && ds.length > 1) then .error .invalidNumber
  else match rest with
    | '.' :: more =>
      if (more.takeWhile isDigit).isEmpty then .error .invalidNumber
      else match more.dropWhile isDigit with
        | 'e' :: tail => skipExponent tail
        | 'E' :: tail => skipExponent tail
        | tail => .ok tail
    | 'e' :: more => skipExponent more
    | 'E' :: more => skipExponent more
    | rest => .ok rest

/-- A number, from its minus sign on. -/
def numberToken (cs : List Char) : Token Json.Number :=
  match cs with
  | '-' :: rest => Token.of (readNumber true rest) (skipNumber rest)
  | cs => Token.of (readNumber false cs) (skipNumber cs)

/-! ## §5. Values. -/

/-- The blanks between tokens. -/
def isSpace (c : Char) : Bool := c == ' ' || c == '\n' || c == '\t' || c == '\r'

/-- A text without the blanks at its start. -/
def skipSpace (cs : List Char) : List Char := cs.dropWhile isSpace

/-- A word after its first letter: what follows it, or why it is not there. -/
def word (expected : List Char) (cs : List Char) : Except SyntaxError (List Char) :=
  match expected, cs with
  | [], cs => .ok cs
  | _ :: _, [] => .error .eofValue
  | e :: es, c :: rest => if c = e then word es rest else .error .expectedIdent

/-- A tree and what follows it, which is absent after a fault that stops the reading. -/
abbrev Step := Reading × Option (List Char)

/-- A word and the tree it stands for. -/
def wordStep (tree : Reading) (expected : String) (cs : List Char) : Step :=
  match word expected.toList cs with
  | .ok rest => (tree, some rest)
  | .error e => (.broken (.both e), none)

mutual
/-- One value, after blanks. -/
def readValue (fuel : Nat) (cs : List Char) : Step :=
  match fuel with
  | 0 => (.broken (.both .eofValue), none)
  | fuel + 1 =>
    match skipSpace cs with
    | [] => (.broken (.both .eofValue), none)
    | c :: rest =>
      if c = 'n' then wordStep .null "ull" rest
      else if c = 't' then wordStep (.bool true) "rue" rest
      else if c = 'f' then wordStep (.bool false) "alse" rest
      else if c = '"' then
        match stringToken rest with
        | .read s rest => (.str s, some rest)
        | .stopped stop => (.broken stop, none)
      else if c = '-' || isDigit c then
        match numberToken (c :: rest) with
        | .read n rest => (.num n, some rest)
        | .stopped stop => (.broken stop, none)
      else if c = '[' then
        let (items, ending, rest) := readItems fuel true rest
        (.arr items ending, rest)
      else if c = '\x7b' then
        let (members, ending, rest) := readMembers fuel true rest
        (.obj members ending, rest)
      else (.broken (.both .expectedValue), none)

/-- The items of a list; `first` says that none was read yet. -/
def readItems (fuel : Nat) (first : Bool) (cs : List Char) :
    List Reading × Ending × Option (List Char) :=
  match fuel with
  | 0 => ([], .cut (.both .eofList), none)
  | fuel + 1 =>
    let item (cs : List Char) : List Reading × Ending × Option (List Char) :=
      match readValue fuel cs with
      | (v, none) => ([v], .closed, none)
      | (v, some rest) =>
        let (vs, ending, rest) := readItems fuel false rest
        (v :: vs, ending, rest)
    match skipSpace cs with
    | [] => ([], .cut (.both .eofList), none)
    | c :: rest =>
      if c = ']' then ([], .closed, some rest)
      else if first then item (c :: rest)
      else if c = ',' then
        match skipSpace rest with
        | ']' :: _ => ([], .cut ⟨.trailingComma, .expectedValue⟩, none)
        | [] => ([], .cut (.both .eofValue), none)
        | rest => item rest
      else ([], .cut (.both .expectedCommaOrBracket), none)

/-- The members of an object; `first` says that none was read yet. -/
def readMembers (fuel : Nat) (first : Bool) (cs : List Char) :
    List (Except SyntaxError String × Reading) × Ending × Option (List Char) :=
  match fuel with
  | 0 => ([], .cut (.both .eofObject), none)
  | fuel + 1 =>
    let member (cs : List Char) :
        List (Except SyntaxError String × Reading) × Ending × Option (List Char) :=
      match stringToken cs with
      | .stopped stop => ([], .cut stop, none)
      | .read key rest =>
        match skipSpace rest with
        | [] => ([(key, .broken (.both .eofObject))], .closed, none)
        | ':' :: rest =>
          match readValue fuel rest with
          | (v, none) => ([(key, v)], .closed, none)
          | (v, some rest) =>
            let (ms, ending, rest) := readMembers fuel false rest
            ((key, v) :: ms, ending, rest)
        | _ => ([(key, .broken (.both .expectedColon))], .closed, none)
    match skipSpace cs with
    | [] => ([], .cut (.both .eofObject), none)
    | c :: rest =>
      if c = '\x7d' then ([], .closed, some rest)
      else if first then
        if c = '"' then member rest else ([], .cut (.both .keyNotString), none)
      else if c = ',' then
        match skipSpace rest with
        | '"' :: rest => member rest
        | '\x7d' :: _ => ([], .cut ⟨.trailingComma, .keyNotString⟩, none)
        | [] => ([], .cut ⟨.eofValue, .eofObject⟩, none)
        | _ => ([], .cut (.both .keyNotString), none)
      else ([], .cut (.both .expectedCommaOrBrace), none)
end

/-- A whole text: its tree, and whether anything but blanks follows the value. -/
structure Document where
  root : Reading
  trailing : Bool

/-- The reading of a text. -/
def ofText (text : String) : Document :=
  let cs := text.toList
  match readValue (2 * cs.length + 2) cs with
  | (root, none) => ⟨root, false⟩
  | (root, some rest) => ⟨root, !(skipSpace rest).isEmpty⟩

/-! ## §6. From and to values. -/

mutual
/-- The reading of a value that is at hand. -/
def ofJson : Json → Reading
  | .null => .null
  | .bool b => .bool b
  | .num n => .num (.ok n)
  | .str s => .str (.ok s)
  | .arr xs => .arr (ofItems xs) .closed
  | .obj ms => .obj (ofMembers ms) .closed

/-- The readings of the items of an array. -/
def ofItems : List Json → List Reading
  | [] => []
  | x :: rest => ofJson x :: ofItems rest

/-- The readings of the members of an object. -/
def ofMembers : List (String × Json) → List (Except SyntaxError String × Reading)
  | [] => []
  | (k, v) :: rest => (.ok k, ofJson v) :: ofMembers rest
end

/-- One level of nesting less; without a limit there is always one more. -/
def descend : Option Nat → Except SyntaxError (Option Nat)
  | none => .ok none
  | some 0 => .error .recursionLimit
  | some (n + 1) => .ok (some n)

mutual
/-- The value that was read, or the first fault in the order of the text.  `depth` is the number
of lists and objects that may still be opened, if there is a limit. -/
def toJson (depth : Option Nat) : Reading → Except SyntaxError Json
  | .null => .ok .null
  | .bool b => .ok (.bool b)
  | .num n => n.map .num
  | .str s => s.map .str
  | .broken stop => .error stop.wanted
  | .arr items ending => do
    let xs ← toItems (← descend depth) items
    ending.check
    return .arr xs
  | .obj members ending => do
    let ms ← toMembers (← descend depth) members
    ending.check
    return Json.ofMembers ms

/-- The values of the items of a list. -/
def toItems (depth : Option Nat) : List Reading → Except SyntaxError (List Json)
  | [] => .ok []
  | r :: rest => do
    let x ← toJson depth r
    let xs ← toItems depth rest
    return x :: xs

/-- The keys and values of the members of an object. -/
def toMembers (depth : Option Nat) :
    List (Except SyntaxError String × Reading) → Except SyntaxError (List (String × Json))
  | [] => .ok []
  | (key, r) :: rest => do
    let k ← key
    let v ← toJson depth r
    let ms ← toMembers depth rest
    return (k, v) :: ms
end

mutual
/-- The fault that a decoder meets that skips the value, if there is one. -/
def skipFault? : Reading → Option SyntaxError
  | .arr items ending => (skipItems? items).orElse fun _ => skipEnding? ending
  | .obj members ending => (skipMembers? members).orElse fun _ => skipEnding? ending
  | .broken stop => some stop.skipped
  | _ => none

/-- The first fault in items that are skipped. -/
def skipItems? : List Reading → Option SyntaxError
  | [] => none
  | r :: rest => (skipFault? r).orElse fun _ => skipItems? rest

/-- The first fault in members that are skipped. -/
def skipMembers? : List (Except SyntaxError String × Reading) → Option SyntaxError
  | [] => none
  | (_, r) :: rest => (skipFault? r).orElse fun _ => skipMembers? rest

/-- The fault at the end of a list or an object that is skipped. -/
def skipEnding? : Ending → Option SyntaxError
  | .closed => none
  | .cut stop => some stop.skipped
end

/-- The number of lists and objects that a text may nest. -/
def depthLimit : Nat := 127

end Reading

/-- The value of a text. -/
def Json.parse (text : String) : Except SyntaxError Json := do
  let doc := Reading.ofText text
  let v ← doc.root.toJson (some Reading.depthLimit)
  if doc.trailing then .error .trailingCharacters else .ok v

end SuiteRunner

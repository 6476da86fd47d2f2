import SuiteRunner.Number.Reading
import SuiteRunner.Toml.Fault
import SuiteRunner.Toml.Table

/-!
  SuiteRunner.Toml.Reading
  ────────────────────────────────
  **READING CONFIGURATION TEXTS.**

  The readers take characters from the front and return what is left, or a fault where they stop.
  What a text says is a document: integers keep to 64 bits with a sign, and a date is an object of
  its own kind, which no setting is.
-/

namespace SuiteRunner.Toml

/-- A reader of a part of a text. -/
abbrev Reader (α : Type) := List Char → Except Fault (α × List Char)

/-- The fault that something is invalid, where other things are expected. -/
def invalid {α : Type} (what : String) (expected : List String) (cs : List Char) : Except Fault α :=
  .error ⟨cs.length, Fault.invalid what expected⟩

/-- A part that has to be there. -/
def need {α : Type} (reason : String) (cs : List Char) : Option α → Except Fault α
  | some a => .ok a
  | none => .error ⟨cs.length, reason⟩

/-! ## §1. Blanks and comments. -/

/-- Whether a character is a blank within a line. -/
def isBlank (c : Char) : Bool := c == ' ' || c == '\t'

/-- The rest after blanks. -/
def skipBlanks (cs : List Char) : List Char := cs.dropWhile isBlank

/-- Characters that may stand in comments and literal strings. -/
def isPlain (c : Char) : Bool := c == '\t' || (0x20 ≤ c.toNat && c.toNat != 0x7f)

/-- A line end, if one comes next. -/
def lineEnd? : List Char → Option (List Char)
  | '\n' :: rest => some rest
  | '\r' :: '\n' :: rest => some rest
  | _ => none

/-- The rest after a comment, if one comes next. -/
def skipComment : List Char → List Char
  | '#' :: rest => rest.dropWhile isPlain
  | cs => cs

/-- What follows the end of a line that says what is named: blanks and a comment may come first. -/
def closeLine (what : String) (cs : List Char) : Except Fault (List Char) :=
  match skipComment (skipBlanks cs) with
  | [] => .ok []
  | cs => need (Fault.invalid what ["newline", Fault.quoted "#"]) cs (lineEnd? cs)

/-- The rest after blanks, comments and line ends. -/
def skipLines : Nat → List Char → List Char
  | 0, cs => cs
  | fuel + 1, cs =>
    let rest := skipComment (skipBlanks cs)
    match lineEnd? rest with
    | some rest => skipLines fuel rest
    | none => if rest.length < cs.length then skipLines fuel rest else rest

/-! ## §2. Strings. -/

/-- A character by its number, in `n` hexadecimal digits. -/
def numbered (n : Nat) : Reader Char := fun cs =>
  let code := do
    let ds ← (cs.take n).mapM hexDigitOf?
    let code := ds.foldl (fun a d => 16 * a + d) 0
    if ds.length = n ∧ (code < 0xd800 ∨ (0xdfff < code ∧ code < 0x110000)) then some code else none
  match code with
  | some code => .ok (Char.ofNat code, cs.drop n)
  | none => invalid ("unicode " ++ toString n ++ "-digit hex code") [] cs

/-- What may follow a backslash. -/
def escapes : List String :=
  ["b", "f", "n", "r", "t", "u", "U", "\\", "\""].map Fault.quoted

/-- A character after a backslash. -/
def escaped : Reader Char
  | 'b' :: rest => .ok ('\x08', rest)
  | 't' :: rest => .ok ('\t', rest)
  | 'n' :: rest => .ok ('\n', rest)
  | 'f' :: rest => .ok ('\x0c', rest)
  | 'r' :: rest => .ok ('\r', rest)
  | '"' :: rest => .ok ('"', rest)
  | '\\' :: rest => .ok ('\\', rest)
  | 'u' :: rest => numbered 4 rest
  | 'U' :: rest => numbered 8 rest
  | cs => invalid "escape sequence" escapes cs

/-- The rest of a string on one line. -/
def basicBody : Nat → List Char → Reader String
  | 0, _, cs => invalid "basic string" [] cs
  | fuel + 1, acc, cs =>
    match cs with
    | '"' :: rest => .ok (String.ofList acc.reverse, rest)
    | '\\' :: rest => do
      let (c, rest) ← escaped rest
      basicBody fuel (c :: acc) rest
    | c :: rest =>
      if isPlain c then basicBody fuel (c :: acc) rest else invalid "basic string" [] (c :: rest)
    | [] => invalid "basic string" [] []

/-- The rest of a string without escapes on one line. -/
def literalBody : Reader String := fun cs =>
  let body := cs.takeWhile fun c => isPlain c && c != '\''
  match cs.drop body.length with
  | '\'' :: rest => .ok (String.ofList body, rest)
  | rest => invalid "literal string" [] rest

/-- The end of a string over several lines: three quotes, perhaps after one or two that belong to
the string. -/
def longEnd? (quote : Char) (cs : List Char) : Option (Nat × List Char) :=
  let n := (cs.takeWhile (· == quote)).length
  if n < 3 then none
  else
    let own := min (n - 3) 2
    some (own, cs.drop (own + 3))

/-- The rest after a backslash at the end of a line: blanks and line ends go away. -/
def skipFold : Nat → List Char → List Char
  | 0, cs => cs
  | fuel + 1, cs =>
    match lineEnd? (skipBlanks cs) with
    | some rest => skipFold fuel rest
    | none => skipBlanks cs

/-- What a string over several lines is called. -/
def longName (escapes : Bool) : String :=
  if escapes then "multiline basic string" else "multiline literal string"

/-- The rest of a string over several lines; `escapes` says whether backslashes mean something. -/
def longBody (quote : Char) (escapes : Bool) : Nat → List Char → Reader String
  | 0, _, cs => invalid (longName escapes) [] cs
  | fuel + 1, acc, cs =>
    match longEnd? quote cs with
    | some (own, rest) => .ok (String.ofList (List.replicate own quote ++ acc).reverse, rest)
    | none =>
      match lineEnd? cs with
      | some rest => longBody quote escapes fuel ('\n' :: acc) rest
      | none =>
        match cs with
        | '\\' :: rest =>
          if !escapes then longBody quote escapes fuel ('\\' :: acc) rest
          else
            match lineEnd? (skipBlanks rest) with
            | some after => longBody quote escapes fuel acc (skipFold after.length after)
            | none => do
              let (c, rest) ← escaped rest
              longBody quote escapes fuel (c :: acc) rest
        | c :: rest =>
          if isPlain c then longBody quote escapes fuel (c :: acc) rest
          else invalid (longName escapes) [] (c :: rest)
        | [] => invalid (longName escapes) [] []

/-- A line end right after the opening quotes does not count. -/
def afterOpening (cs : List Char) : List Char := (lineEnd? cs).getD cs

/-- A string of one of the four kinds. -/
def string : Reader String
  | '"' :: '"' :: '"' :: rest => longBody '"' true (rest.length + 1) [] (afterOpening rest)
  | '\'' :: '\'' :: '\'' :: rest => longBody '\'' false (rest.length + 1) [] (afterOpening rest)
  | '"' :: rest => basicBody (rest.length + 1) [] rest
  | '\'' :: rest => literalBody rest
  | cs => invalid "string" (["\"", "'"].map Fault.quoted) cs

/-! ## §3. Keys. -/

/-- Characters of keys without quotes. -/
def isKeyChar (c : Char) : Bool := c.isAlphanum || c == '_' || c == '-'

/-- One part of a key. -/
def keyPart : Reader String
  | '"' :: rest => basicBody (rest.length + 1) [] rest
  | '\'' :: rest => literalBody rest
  | cs =>
    let word := cs.takeWhile isKeyChar
    if word.isEmpty then invalid "key" [] cs else .ok (String.ofList word, cs.drop word.length)

/-- A key with dots between its parts; blanks may stand around each part. -/
def dottedKey : Nat → Reader (List String)
  | 0, cs => invalid "key" [] cs
  | fuel + 1, cs => do
    let (part, rest) ← keyPart (skipBlanks cs)
    match skipBlanks rest with
    | '.' :: rest => do
      let (parts, rest) ← dottedKey fuel rest
      return (part :: parts, rest)
    | rest => return ([part], rest)

/-! ## §4. Numbers and dates. -/

/-- Digits that a test accepts, with single underscores between them. -/
def digitRun (ok : Char → Bool) : Nat → Reader (List Char)
  | 0, cs => invalid "integer" ["digit"] cs
  | fuel + 1, cs =>
    let ds := cs.takeWhile ok
    if ds.isEmpty then invalid "integer" ["digit"] cs
    else
      match cs.drop ds.length with
      | '_' :: rest => (digitRun ok fuel rest).map fun (more, rest) => (ds ++ more, rest)
      | rest => .ok (ds, rest)

/-- A sign, if there is one: whether it is a minus. -/
def sign : List Char → Bool × List Char
  | '-' :: rest => (true, rest)
  | '+' :: rest => (false, rest)
  | cs => (false, cs)

/-- An integer that fits 64 bits; `cs` is where it began. -/
def fitting (n : Int) (cs : List Char) : Except Fault Json :=
  if -0x8000000000000000 ≤ n ∧ n < 0x8000000000000000 then .ok (.num (.int n))
  else
    let size := if n < 0 then "small" else "large"
    .error ⟨cs.length,
      "invalid integer\nnumber too " ++ size ++ " to fit in target type"⟩

/-- The number of digits in a base. -/
def valueIn (base : Nat) (ds : List Char) : Nat :=
  ds.foldl (fun n d => base * n + (hexDigitOf? d).getD 0) 0

/-- An integer in another base. -/
def based (base : Nat) : Reader Json := fun cs => do
  let ok (c : Char) : Bool := match hexDigitOf? c with
    | some d => d < base
    | none => false
  let (ds, rest) ← digitRun ok (cs.length + 1) cs
  let v ← fitting (valueIn base ds) cs
  return (v, rest)

/-- The whole part of a decimal number: no zero at its front. -/
def whole : Reader (List Char) := fun cs =>
  match cs with
  | '0' :: rest => .ok (['0'], rest)
  | _ => digitRun isDigit (cs.length + 1) cs

/-- The digits after a point, if there is one. -/
def fraction : Reader (List Char)
  | '.' :: rest => digitRun isDigit (rest.length + 1) rest
  | cs => .ok ([], cs)

/-- The power of ten, if one is given. -/
def power : Reader (Option Int) := fun cs =>
  match cs with
  | 'e' :: rest => read rest
  | 'E' :: rest => read rest
  | _ => .ok (none, cs)
where
  /-- The digits of a power. -/
  read : Reader (Option Int) := fun rest => do
    let (minus, rest) := sign rest
    let (ds, rest) ← digitRun isDigit (rest.length + 1) rest
    let n : Int := min (natOfDigits ds) 1000000
    return (some (if minus then -n else n), rest)

/-- A decimal number with a fraction or a power. -/
def floating : Reader Json := fun cs => do
  let (minus, rest) := sign cs
  let (ws, rest) ← whole rest
  let (fs, rest) ← fraction rest
  let (p, rest) ← power rest
  let x := Binary64.ofScientific minus (natOfDigits (ws ++ fs)) (p.getD 0 - fs.length)
  if fs.isEmpty && p.isNone then invalid "floating-point number" [] cs
  else if x.isFinite then return (.num (.float x), rest)
  else invalid "floating-point number" [] cs

/-- A decimal number without either. -/
def integral : Reader Json := fun cs => do
  let (minus, rest) := sign cs
  let (ws, rest) ← whole rest
  let n : Int := natOfDigits ws
  let v ← fitting (if minus then -n else n) cs
  return (v, rest)

/-- A decimal number: what does not go on as one with a fraction ends before it. -/
def decimal : Reader Json := fun cs =>
  match floating cs with
  | .ok r => .ok r
  | .error _ => integral cs

/-- Digits of fixed number, as a number. -/
def fixed (n : Nat) (cs : List Char) : Option (Nat × List Char) :=
  let ds := cs.take n
  if ds.length = n ∧ ds.all isDigit then some (natOfDigits ds, cs.drop n) else none

/-- The number of days of a month. -/
def monthLength (year month : Nat) : Nat :=
  if month = 2 then
    (if year % 4 = 0 ∧ (year % 100 ≠ 0 ∨ year % 400 = 0) then 29 else 28)
  else if month = 4 ∨ month = 6 ∨ month = 9 ∨ month = 11 then 30
  else 31

/-- The document for a date or a time. -/
def moment (text : List Char) : Json := .obj [("moment", .str (String.ofList text))]

/-- A time of day. -/
def timeOfDay (cs : List Char) : Option (List Char) := do
  let (h, rest) ← fixed 2 cs
  match rest with
  | ':' :: rest =>
    let (m, rest) ← fixed 2 rest
    match rest with
    | ':' :: rest =>
      let (s, rest) ← fixed 2 rest
      if h ≤ 23 ∧ m ≤ 59 ∧ s ≤ 60 then
        match rest with
        | '.' :: more => if (more.head?.map isDigit).getD false then some (more.dropWhile isDigit) else none
        | rest => some rest
      else none
    | _ => none
  | _ => none

/-- A date. -/
def date (cs : List Char) : Option (List Char) := do
  let (y, rest) ← fixed 4 cs
  match rest with
  | '-' :: rest =>
    let (m, rest) ← fixed 2 rest
    match rest with
    | '-' :: rest =>
      let (d, rest) ← fixed 2 rest
      if 1 ≤ m ∧ m ≤ 12 ∧ 1 ≤ d ∧ d ≤ monthLength y m then some rest else none
    | _ => none
  | _ => none

/-- The distance from universal time, if one is given. -/
def offset (cs : List Char) : Option (List Char) :=
  match cs with
  | 'Z' :: rest => some rest
  | 'z' :: rest => some rest
  | '+' :: rest => read rest
  | '-' :: rest => read rest
  | _ => some cs
where
  /-- Hours and minutes. -/
  read (rest : List Char) : Option (List Char) := do
    let (h, rest) ← fixed 2 rest
    match rest with
    | ':' :: rest =>
      let (m, rest) ← fixed 2 rest
      if h ≤ 23 ∧ m ≤ 59 then some rest else none
    | _ => none

/-- What may follow a date: a time and a distance from universal time. -/
def dateTail (cs : List Char) : Option (List Char) :=
  match cs with
  | 'T' :: rest => timeOfDay rest >>= offset
  | 't' :: rest => timeOfDay rest >>= offset
  | ' ' :: rest =>
    if (rest.head?.map isDigit).getD false then timeOfDay rest >>= offset else some cs
  | cs => some cs

/-- Whether digits and then a mark come next, as in dates and times. -/
def looksLike (n : Nat) (mark : Char) (cs : List Char) : Bool :=
  (cs.take n).all isDigit && cs[n]? == some mark && n ≤ cs.length

/-- A moment, if what is left after it is known. -/
def momentUpTo (cs : List Char) : Option (List Char) → Except Fault (Json × List Char)
  | some rest => .ok (moment (cs.take (cs.length - rest.length)), rest)
  | none => invalid "date-time" [] cs

/-- A date, a time or a number. -/
def number : Reader Json := fun cs =>
  if looksLike 4 '-' cs then momentUpTo cs (date cs >>= dateTail)
  else if looksLike 2 ':' cs then momentUpTo cs (timeOfDay cs)
  else
    match cs with
    | '0' :: 'x' :: rest => based 16 rest
    | '0' :: 'o' :: rest => based 8 rest
    | '0' :: 'b' :: rest => based 2 rest
    | _ => decimal cs

/-- The words that are values, and those for special numbers. -/
def words : List (String × Json) := [
  ("true", .bool true), ("false", .bool false),
  ("inf", .num (.float (.inf false))), ("+inf", .num (.float (.inf false))),
  ("-inf", .num (.float (.inf true))), ("nan", .num (.float .nan)),
  ("+nan", .num (.float .nan)), ("-nan", .num (.float .nan))]

/-- A value that is a word. -/
def wordValue? (cs : List Char) : Option (Json × List Char) :=
  words.findSome? fun (w, v) =>
    if w.toList.isPrefixOf cs then some (v, cs.drop w.length) else none

/-- Whether a character may be the first of a number. -/
def startsNumber (c : Char) : Bool := isDigit c || c == '+' || c == '-' || c == '_' || c == '.'

/-- A value without parts: a word or a number. -/
def plainValue : Reader Json := fun cs =>
  match wordValue? cs, cs.head? with
  | some r, _ => .ok r
  | none, some c =>
    if startsNumber c then number cs
    else if c == 't' || c == 'f' then invalid "boolean" (["true", "false"].map Fault.quoted) cs
    else invalid "string" (["\"", "'"].map Fault.quoted) cs
  | none, none => invalid "string" (["\"", "'"].map Fault.quoted) cs

/-! ## §5. Values. -/

mutual
/-- A value. -/
def value : Nat → List Char → Except Fault (Json × List Char)
  | 0, cs => invalid "value" [] cs
  | fuel + 1, cs =>
    match cs with
    | '"' :: _ => (string cs).map fun (s, rest) => (.str s, rest)
    | '\'' :: _ => (string cs).map fun (s, rest) => (.str s, rest)
    | '[' :: rest => (items fuel (skipLines rest.length rest)).map fun (vs, rest) => (.arr vs, rest)
    | '\x7b' :: rest =>
      match skipBlanks rest with
      | '\x7d' :: rest => .ok (.obj [], rest)
      | rest => (inlineMembers fuel [] rest).map fun (ms, rest) => (.obj (membersToJson ms), rest)
    | _ => plainValue cs

/-- The items of an array, up to its end. -/
def items : Nat → List Char → Except Fault (List Json × List Char)
  | 0, cs => invalid "array" [] cs
  | fuel + 1, cs =>
    match cs with
    | ']' :: rest => .ok ([], rest)
    | _ => do
      let (v, rest) ← value fuel cs
      match skipLines rest.length rest with
      | ',' :: rest => do
        let (vs, rest) ← items fuel (skipLines rest.length rest)
        return (v :: vs, rest)
      | ']' :: rest => return ([v], rest)
      | rest => invalid "array" [Fault.quoted "]"] rest

/-- The members of a table on one line, up to its end. -/
def inlineMembers : Nat → Members → List Char → Except Fault (Members × List Char)
  | 0, _, cs => invalid "inline table" [] cs
  | fuel + 1, ms, cs => do
    let (key, rest) ← dottedKey (cs.length + 1) cs
    match rest with
    | '=' :: rest => do
      let (v, rest) ← value fuel (skipBlanks rest)
      let last := key.getLast?.getD ""
      let ms ← need (Fault.taken last key.dropLast) cs
        (addValue headed ms key.dropLast last (.value v))
      match skipBlanks rest with
      | ',' :: rest => inlineMembers fuel ms rest
      | '\x7d' :: rest => return (ms, rest)
      | rest => invalid "inline table" [Fault.quoted "\x7d"] rest
    | rest => invalid "" [Fault.quoted ".", Fault.quoted "="] rest
end

/-! ## §6. Lines. -/

/-- What a line in brackets is called. -/
def headerName : String := "table header"

/-- A header between brackets: its path, and what follows it on the line. -/
def header : Reader (List String) := fun cs => do
  let (path, rest) ← dottedKey (cs.length + 1) cs
  match rest with
  | ']' :: rest => return (path, rest)
  | rest => invalid headerName [Fault.quoted ".", Fault.quoted "]"] rest

/-- The reason that the last part of a path is taken. -/
def pathTaken (path : List String) : String := Fault.taken (path.getLast?.getD "") path.dropLast

/-- One line after another. -/
def lines : Nat → Draft → List Char → Except Fault Draft
  | 0, _, cs => invalid "" [] cs
  | fuel + 1, d, cs =>
    match skipBlanks cs with
    | [] => .ok d
    | '[' :: '[' :: rest => do
      let (path, after) ← header rest
      match after with
      | ']' :: after => do
        let after ← closeLine headerName after
        let d ← need (pathTaken path) ('[' :: '[' :: rest) (d.openElement path)
        lines fuel d after
      | after => invalid headerName [Fault.quoted ".", Fault.quoted "]]"] after
    | '[' :: rest => do
      let (path, after) ← header rest
      let after ← closeLine headerName after
      let d ← need (pathTaken path) ('[' :: rest) (d.openTable path)
      lines fuel d after
    | '#' :: rest => do lines fuel d (← closeLine "" ('#' :: rest))
    | c :: rest =>
      match lineEnd? (c :: rest) with
      | some rest => lines fuel d rest
      | none => do
        let (key, after) ← dottedKey (rest.length + 2) (c :: rest)
        match after with
        | '=' :: after => do
          let (v, after) ← value (after.length + 1) (skipBlanks after)
          let after ← closeLine "" after
          let last := key.getLast?.getD ""
          let d ← need (Fault.taken last (d.path ++ key.dropLast)) (c :: rest)
            (d.add key.dropLast last v)
          lines fuel d after
        | after => invalid "" [Fault.quoted ".", Fault.quoted "="] after

/-- A mark of the byte order at the front says nothing. -/
def afterMark : List Char → List Char
  | '\ufeff' :: rest => rest
  | cs => cs

/-- The document of characters. -/
def documentOf (cs : List Char) : Except Fault Json := do
  let d ← lines (cs.length + 1) .empty cs
  let root ← need (pathTaken d.path) [] d.settle
  return .obj (membersToJson root)

/-- **The document of a configuration text,** or the lines that show what is wrong in it. -/
def parse (text : String) : Except String Json :=
  match documentOf (afterMark text.toList) with
  | .ok v => .ok v
  | .error f => .error (f.render text)

end SuiteRunner.Toml

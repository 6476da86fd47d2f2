import SuiteRunner.Number.Reading
import SuiteRunner.Text.Split
import SuiteRunner.Xml.Name

/-!
  SuiteRunner.Xml.Token
  ────────────────────────────────
  **THE TOKENS OF A MARKED-UP TEXT.**

  The first characters decide what stands there: a comment, a section of plain characters, a
  document type, an instruction, a closing tag, an opening tag, a reference, or characters.  A
  reference is one of the five predefined ones or the number of a character.
-/

namespace SuiteRunner.Xml

/-- A token. -/
inductive Token where
  | openTag (name : Name) (attributes : List (Name × String)) (closed : Bool)
  | closeTag (name : Name)
  | chars (text : String)
  | quotedChars (text : String)
  | comment (text : String)
  | instruction (target : String) (value : String)
  | documentType
  deriving DecidableEq, Repr

/-! ## §1. References. -/

/-- The characters of the predefined references. -/
def predefined? (name : String) : Option Char :=
  match name with
  | "amp" => some '&'
  | "lt" => some '<'
  | "gt" => some '>'
  | "quot" => some '"'
  | "apos" => some '\''
  | _ => none

/-- The character with a number. -/
def charOfNumber? (n : Nat) : Option Char :=
  if Nat.isValidChar n then some (Char.ofNat n) else none

/-- The number that digits of a base stand for; without digits there is none. -/
def numberOf? (base : Nat) (digit : Char → Option Nat) (cs : List Char) : Option Nat :=
  if cs.isEmpty then none
  else cs.foldl (fun n c => n.bind fun n => (digit c).map fun d => n * base + d) (some 0)

/-- The character that a reference stands for, by what is between `&` and the semicolon. -/
def referent? : List Char → Option Char
  | '#' :: 'x' :: ds => (numberOf? 16 hexDigitOf? ds).bind charOfNumber?
  | '#' :: ds => (numberOf? 10 digitOf? ds).bind charOfNumber?
  | name => predefined? (String.ofList name)

/-- The reference at the start of a text, after its `&`. -/
def reference? (cs : List Char) : Option (Char × List Char) :=
  match Text.splitOnceChars? ';' cs with
  | none => none
  | some (name, rest) => (referent? name).map fun c => (c, rest)

/-! ## §2. Tags. -/

/-- The characters of an attribute's value before the closing quote, references replaced. -/
def attributeValue? (quote : Char) : Nat → List Char → Option (List Char × List Char)
  | 0, _ => none
  | _, [] => none
  | fuel + 1, c :: rest =>
    if c = quote then some ([], rest)
    else if c = '<' then none
    else if c = '&' then
      match reference? rest with
      | none => none
      | some (d, rest) => (attributeValue? quote fuel rest).map fun (cs, rest) => (d :: cs, rest)
    else (attributeValue? quote fuel rest).map fun (cs, rest) => (c :: cs, rest)

/-- The equals sign with blanks around it. -/
def equalsSign? (cs : List Char) : Option (List Char) :=
  match skipSpace cs with
  | '=' :: rest => some (skipSpace rest)
  | _ => none

/-- An attribute. -/
def attribute? (cs : List Char) : Option ((Name × String) × List Char) := do
  let (name, rest) ← name? cs
  let rest ← equalsSign? rest
  match rest with
  | quote :: rest =>
    if quote = '"' ∨ quote = '\'' then
      let (value, rest) ← attributeValue? quote rest.length.succ rest
      some ((name, String.ofList value), rest)
    else none
  | [] => none

/-- The attributes of an opening tag and its end, with whether it closes itself.  Blanks go before
each attribute. -/
def attributes? : Nat → List Char → Option (List (Name × String) × Bool × List Char)
  | 0, _ => none
  | fuel + 1, cs =>
    match skipSpace cs with
    | '>' :: rest => some ([], false, rest)
    | '/' :: '>' :: rest => some ([], true, rest)
    | trimmed => do
      if trimmed.length = cs.length then none
      else
        let (a, rest) ← attribute? trimmed
        let (more, closed, rest) ← attributes? fuel rest
        some (a :: more, closed, rest)

/-- An opening tag, after its `<`. -/
def openTag? (cs : List Char) : Option (Token × List Char) := do
  let (name, rest) ← name? cs
  let (attributes, closed, rest) ← attributes? rest.length.succ rest
  some (.openTag name attributes closed, rest)

/-- A closing tag, after its `</`. -/
def closeTag? (cs : List Char) : Option (Token × List Char) := do
  let (name, rest) ← name? cs
  match skipSpace rest with
  | '>' :: rest => some (.closeTag name, rest)
  | _ => none

/-! ## §3. Comments, sections, instructions. -/

/-- A comment, after its opening; two hyphens end it. -/
def comment? (cs : List Char) : Option (Token × List Char) :=
  match Text.afterFirst? ['-', '-'] cs with
  | some (text, '>' :: rest) => some (.comment (String.ofList text), rest)
  | _ => none

/-- A section of plain characters, after its opening. -/
def section? (cs : List Char) : Option (Token × List Char) :=
  (Text.afterFirst? [']', ']', '>'] cs).map fun (text, rest) =>
    (.quotedChars (String.ofList text), rest)

/-- Whether a target is the word that declarations use. -/
def isReserved (target : String) : Bool := String.ofList (target.toList.map Char.toLower) == "xml"

/-- An instruction, after its `<?`. -/
def instruction? (cs : List Char) : Option (Token × List Char) := do
  let (target, rest) ← namePart? cs
  if isReserved target then none
  else
    let (value, tail) ← Text.afterFirst? ['?', '>'] rest
    let trimmed := skipSpace value
    if trimmed.length = value.length ∧ value ≠ [] then none
    else some (.instruction target (String.ofList trimmed), tail)

/-- A text in quotes and what follows it. -/
def quotedText? : List Char → Option (List Char × List Char)
  | quote :: rest =>
    if quote = '"' ∨ quote = '\'' then Text.splitOnceChars? quote rest else none
  | [] => none

/-- One or more blanks. -/
def spaces? (cs : List Char) : Option (List Char) :=
  let rest := skipSpace cs
  if rest.length = cs.length then none else some rest

/-- Where the rest of a document type is kept. -/
def externalId? (cs : List Char) : Option (List Char) :=
  let system := "SYSTEM".toList
  let shared := "PUBLIC".toList
  if system.isPrefixOf cs then do
    let rest ← spaces? (cs.drop system.length)
    let (_, rest) ← quotedText? rest
    some rest
  else if shared.isPrefixOf cs then do
    let rest ← spaces? (cs.drop shared.length)
    let (_, rest) ← quotedText? rest
    let rest ← spaces? rest
    let (_, rest) ← quotedText? rest
    some rest
  else none

/-- A document type, after its opening: a name and where the rest is kept. -/
def documentType? (cs : List Char) : Option (Token × List Char) := do
  let rest ← spaces? cs
  let (_, rest) ← name? rest
  let rest ← spaces? rest
  let rest ← externalId? rest
  match skipSpace rest with
  | '>' :: rest => some (.documentType, rest)
  | _ => none

/-! ## §4. All tokens. -/

/-- What is left of a text after an opening, if it begins so. -/
def after? (opening : String) (cs : List Char) : Option (List Char) :=
  if opening.toList.isPrefixOf cs then some (cs.drop opening.length) else none

/-- The token that begins with `<`. -/
def markup? (cs : List Char) : Option (Token × List Char) :=
  match after? "<!--" cs with
  | some rest => comment? rest
  | none =>
    match after? "<![CDATA[" cs with
    | some rest => section? rest
    | none =>
      match after? "<!DOCTYPE" cs with
      | some rest => documentType? rest
      | none =>
        match after? "<?" cs with
        | some rest => instruction? rest
        | none =>
          match after? "</" cs with
          | some rest => closeTag? rest
          | none => openTag? (cs.drop 1)

/-- The first token of a text that is not empty. -/
def Token.next? (cs : List Char) : Option (Token × List Char) :=
  match cs with
  | '<' :: _ => markup? cs
  | '&' :: rest => (reference? rest).map fun (c, rest) => (.quotedChars (String.ofList [c]), rest)
  | _ =>
    let run := cs.takeWhile fun c => c != '<' && c != '&'
    if Text.occursIn [']', ']', '>'] run then none
    else some (.chars (String.ofList run), cs.dropWhile fun c => c != '<' && c != '&')

/-- The tokens of a text, at most `fuel` of them. -/
def Token.scan? : Nat → List Char → Option (List Token)
  | _, [] => some []
  | 0, _ => none
  | fuel + 1, cs => do
    let (t, rest) ← Token.next? cs
    let ts ← Token.scan? fuel rest
    some (t :: ts)

/-- One item of a declaration: a word, the equals sign and a quoted text. -/
def declaredItem? (word : String) (cs : List Char) : Option (List Char) := do
  let rest ← spaces? cs
  let rest ← after? word rest
  let rest ← equalsSign? rest
  let (_, rest) ← quotedText? rest
  some rest

/-- What follows the declaration at the start of a text; a text without one is left as it is. -/
def afterDeclaration? (cs : List Char) : Option (List Char) :=
  match after? "<?xml" cs with
  | none => some cs
  | some rest =>
    if (rest.head?.map isNameChar) == some true then some cs
    else do
      let rest ← declaredItem? "version" rest
      let rest := (declaredItem? "encoding" rest).getD rest
      let rest := (declaredItem? "standalone" rest).getD rest
      after? "?>" (skipSpace rest)

/-- **The tokens of a document.** -/
def Token.ofText? (text : String) : Option (List Token) := do
  let rest ← afterDeclaration? text.toList
  Token.scan? rest.length rest

end SuiteRunner.Xml

import SuiteRunner.Error
import SuiteRunner.Http.Message
import SuiteRunner.Text.LetterCase
import SuiteRunner.Text.SortedMap

/-!
  SuiteRunner.Http.Header
  ────────────────────────────────
  **METHODS, NAMES AND VALUES OF HEADERS.**

  Methods and names are tokens.  Names differ in more than letter case, and the blanks around a
  value do not belong to it.
-/

namespace SuiteRunner.Http

/-- Whether a character may stand in a token. -/
def isTokenChar (c : Char) : Bool := c.isAlphanum || "!#$%&'*+-.^_`|~".toList.contains c

/-- Whether a text is a token. -/
def isToken (s : String) : Bool := !s.isEmpty && s.toList.all isTokenChar

/-- Whether a character may stand in a value that is sent. -/
def isValueChar (c : Char) : Bool := c == '\t' || (0x20 ≤ c.toNat && c.toNat != 0x7f)

/-- A value without the blanks around it. -/
def bareValue (s : String) : String :=
  let blank (c : Char) : Bool := c == ' ' || c == '\t'
  String.ofList ((s.toList.dropWhile blank).reverse.dropWhile blank).reverse

/-- **A method as it is sent,** in capitals. -/
def methodOf (text : String) : Except Failure String :=
  let m := LetterCase.asciiUpper text
  if isToken m then .ok m else .error (.request ("invalid HTTP method: " ++ text))

/-- The name and the value of a header as they are sent. -/
def headerOf (name value : String) : Except Failure (String × String) :=
  if !isToken name then
    .error (.request ("invalid header name '" ++ name ++ "': invalid HTTP header name"))
  else
    let name := LetterCase.asciiLower name
    if value.toList.all isValueChar then .ok (name, bareValue value)
    else .error (.request ("invalid header value for '" ++ name ++ "': failed to parse header value"))

/-- **Headers as they are sent.**  Of names that differ in letter case only the last one counts. -/
def headersOf (headers : TextMap) : Except Failure TextMap := do
  let pairs ← headers.entries.mapM fun (name, value) => headerOf name value
  return .ofList pairs

/-- A value that came, as far as it can be read: text outside ASCII counts as empty. -/
def readableValue (value : String) : String :=
  if value.toList.all fun c => isValueChar c && c.toNat < 0x7f then bareValue value else ""

/-- **Headers that came, as far as they can be read.** -/
def readableHeaders (headers : List (String × String)) : TextMap :=
  .ofList (headers.map fun (name, value) => (name, readableValue value))

end SuiteRunner.Http

import SuiteRunner.Http.Header
import SuiteRunner.Http.Url
import SuiteRunner.Number.Reading
import SuiteRunner.Text.Split
import SuiteRunner.Text.Utf8

/-!
  SuiteRunner.Http.Wire
  ────────────────────────────────
  **REQUESTS AND RESPONSES AS BYTES.**

  A request is a line, its headers, an empty line and its body.  It asks the server to close the
  connection when it has answered, so a response is all that comes until then.  A body is as long
  as its headers say, or comes in chunks with a length each, or ends with the connection.
-/

namespace SuiteRunner.Http

/-! ## §1. Writing requests. -/

/-- The headers that every request has unless it says otherwise. -/
def usualHeaders (r : Request) (u : Url) : List (String × String) :=
  [("host", u.authority), ("accept", "*/*"), ("connection", "close")]
    ++ (match r.body with
      | some b => [("content-length", toString (Utf8.encode b).length)]
      | none => [])

/-- The lines of the head of a request. -/
def Request.head (r : Request) (u : Url) : List String :=
  let usual := (usualHeaders r u).filter fun (k, _) => (header? k r.headers).isNone
  (r.method ++ " " ++ u.resource ++ " HTTP/1.1")
    :: (usual ++ r.headers).map fun (k, v) => k ++ ": " ++ v

/-- **The bytes of a request** to a server. -/
def Request.bytes (r : Request) (u : Url) : List UInt8 :=
  Utf8.encode (String.join ((r.head u ++ [""]).map (· ++ "\r\n"))) ++ Utf8.encode (r.body.getD "")

/-! ## §2. Reading responses. -/

/-- The bytes of a line, and those after it. -/
def line? : List UInt8 → Option (List UInt8 × List UInt8)
  | [] => none
  | 13 :: 10 :: rest => some ([], rest)
  | 10 :: rest => some ([], rest)
  | b :: rest => (line? rest).map fun (l, after) => (b :: l, after)

/-- The headers up to an empty line, and the bytes after it; every header takes one of the lines
that may be read. -/
def fields? : Nat → List UInt8 → Option (List (String × String) × List UInt8)
  | 0, _ => none
  | lines + 1, bytes => do
    let (l, rest) ← line? bytes
    if l.isEmpty then return ([], rest)
    let (name, value) ← Text.splitOnce? ':' (Utf8.repair l)
    let (more, rest) ← fields? lines rest
    return ((LetterCase.asciiLower name, bareValue value) :: more, rest)

/-- The number of a status line. -/
def status? (line : String) : Option Nat := do
  let (protocol, rest) ← Text.splitOnce? ' ' line
  if !Text.startsWith protocol "HTTP/1." then none
  natOfText? 999 (String.ofList (rest.toList.take 3))

/-- The length of a chunk, which may have remarks after it. -/
def chunkLength? (line : List UInt8) : Option Nat := do
  let digits := (Utf8.repair line).toList.takeWhile fun c => (hexDigitOf? c).isSome
  if digits.isEmpty then none
  let values ← digits.mapM hexDigitOf?
  return values.foldl (fun n d => n * 16 + d) 0

/-- The bytes of a body in chunks, of which there are fewer than the number given. -/
def chunks? : Nat → List UInt8 → Option (List UInt8)
  | 0, _ => none
  | count + 1, bytes => do
    let (l, rest) ← line? bytes
    let length ← chunkLength? l
    if length == 0 then return []
    if rest.length < length then none
    let (_, after) ← line? (rest.drop length)
    return rest.take length ++ (← chunks? count after)

/-- The body of a response, cut out of all that came after its head. -/
def body? (headers : List (String × String)) (bytes : List UInt8) : Option (List UInt8) :=
  if (header? "transfer-encoding" headers).map LetterCase.asciiLower == some "chunked" then
    chunks? (bytes.length + 1) bytes
  else
    match header? "content-length" headers with
    | none => some bytes
    | some text => do
      let length ← natOfText? 0xffffffffffffffff text
      if bytes.length < length then none
      return bytes.take length

/-- **The response to a request;** what a server says before its answer is passed over. -/
def Response.ofBytes? (r : Request) : Nat → List UInt8 → Option Response
  | 0, _ => none
  | heads + 1, bytes => do
    let (first, rest) ← line? bytes
    let status ← status? (Utf8.repair first)
    let (headers, rest) ← fields? (rest.length + 1) rest
    if status < 200 then ofBytes? r heads rest
    else if r.bodiless status then return ⟨status, headers, []⟩
    else return ⟨status, headers, ← body? headers rest⟩

end SuiteRunner.Http

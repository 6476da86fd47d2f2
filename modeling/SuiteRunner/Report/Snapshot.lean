import SuiteRunner.Suite.Document

/-!
  SuiteRunner.Report.Snapshot
  ────────────────────────────────
  **WHAT A REPORT KEEPS OF A RESPONSE.**

  A body that is a document is kept as one, as long as its text is short.  Any other body is kept
  as text, and a long text is cut after the last character that still fits.
-/

namespace SuiteRunner

/-- A response as reports show it. -/
structure Snapshot where
  status : Nat
  headers : TextMap
  body : Json
  deriving Inhabited

namespace Snapshot

/-- The greatest number of bytes that are kept of a body. -/
def bodyLimit : Nat := 4096

/-- The longest beginning of a text whose UTF-8 encoding has at most `limit` bytes. -/
def fitting : Nat → List Char → List Char
  | _, [] => []
  | limit, c :: rest =>
    if c.utf8Size ≤ limit then c :: fitting (limit - c.utf8Size) rest else []

/-- A text cut to the limit, with dots where something is missing. -/
def shortened (text : String) : String :=
  if text.utf8ByteSize ≤ bodyLimit then text
  else String.ofList (fitting bodyLimit text.toList) ++ "..."

/-- **The snapshot of a response,** given its body as text and, if it is one, as a document. -/
def of (status : Nat) (headers : TextMap) (text : String) (document : Option Json) : Snapshot :=
  { status := status, headers := headers,
    body := match document with
      | some v => if text.utf8ByteSize ≤ bodyLimit then v else .str (shortened text)
      | none => .str (shortened text) }

open Decode

/-- Read a snapshot. -/
def decode : Decoder Snapshot := record "struct ResponseSnapshot" [
  must "status" (fun p r => (integer 0 0xffff "u16" p r).map Int.toNat)
    fun a s => { s with status := a },
  must "headers" textMap fun a s => { s with headers := a },
  must "body" json fun a s => { s with body := a }] default

/-- The document of a snapshot. -/
def toJson (s : Snapshot) : Json := .obj [
  ("status", Json.ofNat s.status), ("headers", s.headers.toJson), ("body", s.body)]

end Snapshot

end SuiteRunner

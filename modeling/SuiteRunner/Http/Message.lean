/-!
  SuiteRunner.Http.Message
  ────────────────────────────────
  **REQUESTS AND RESPONSES.**

  A request says where it goes by an absolute address.  The names of headers are in small letters.
-/

namespace SuiteRunner.Http

/-- A request as it is sent. -/
structure Request where
  method : String
  url : String
  headers : List (String × String)
  body : Option String
  deriving DecidableEq, Repr, Inhabited

/-- A response as it comes. -/
structure Response where
  status : Nat
  headers : List (String × String)
  body : List UInt8
  deriving DecidableEq, Repr, Inhabited

/-- The value of a header. -/
def header? (name : String) (headers : List (String × String)) : Option String :=
  headers.lookup name

/-- Whether the response to a request has no body, whatever its headers say. -/
def Request.bodiless (r : Request) (status : Nat) : Bool :=
  r.method == "HEAD" || status == 204 || status == 304

end SuiteRunner.Http

import SuiteRunner.Http.Header
import SuiteRunner.Http.Url
import SuiteRunner.Outside.Request
import SuiteRunner.Text.Base64

/-!
  SuiteRunner.Http.Client
  ────────────────────────────────
  **SENDING A REQUEST AND FOLLOWING WHERE IT IS SENT ON.**

  A response may name another address.  The request is then made again there, with the address it
  came from; what a response to another method answers is asked for without a body.  What proves
  who asks is not passed on to another server.  After ten requests the client gives up.
-/

namespace SuiteRunner.Http

/-- A request on its way, which may be sent on. -/
structure Outgoing where
  method : String
  url : Url
  headers : TextMap
  body : Option String
  deriving Inhabited

namespace Outgoing

/-- The request as it is sent. -/
def sent (m : Outgoing) : Request := ⟨m.method, m.url.render, m.headers.entries, m.body⟩

/-! ## §1. Where a response sends a request. -/

/-- The headers without some of them. -/
def without (names : List String) (headers : TextMap) : TextMap :=
  .ofList (headers.entries.filter fun (k, _) => !names.contains k)

/-- The headers that describe a body. -/
def bodyHeaders : List String :=
  ["transfer-encoding", "content-encoding", "content-type", "content-length"]

/-- The headers that prove who asks. -/
def credentials : List String :=
  ["authorization", "cookie", "cookie2", "proxy-authorization", "www-authenticate"]

/-- A request that no longer carries its body. -/
def bare (m : Outgoing) : Outgoing :=
  { m with method := if m.method == "HEAD" then "HEAD" else "GET", body := none,
           headers := without bodyHeaders m.headers }

/-- The request that a kind of response asks for. -/
def repeated? (m : Outgoing) (status : Nat) : Option Outgoing :=
  if status == 301 || status == 302 || status == 303 then some m.bare
  else if status == 307 || status == 308 then some m
  else none

/-- The request at another address, which is told where it comes from. -/
def movedTo (m : Outgoing) (url : Url) : Outgoing :=
  let headers :=
    if m.url.secure && !url.secure then m.headers
    else m.headers.insert "referer" m.url.anonymous.render
  { m with url := url,
           headers := if m.url.sameServer url then headers else without credentials headers }

/-- **The request that a response sends on;** none if the response is the answer. -/
def next? (m : Outgoing) (r : Response) : Option Outgoing := do
  let again ← m.repeated? r.status
  let place ← header? "location" r.headers
  let url ← m.url.join? place
  return again.movedTo url

/-! ## §2. Sending. -/

/-- Why there is no answer from an address. -/
def fault (what : String) (url : Url) (reason : String) : Failure :=
  .request (what ++ " for url (" ++ url.render ++ "): " ++ reason)

/-- Send a request, and then those it is sent on to, up to a number of them. -/
def follow : Nat → Outgoing → Errand (Except Failure Response)
  | left, m => do
    let answer : Except String Response ← Program.query (S := outside) (.exchange m.sent)
    match answer with
    | .error reason => return .error (fault "error sending request" m.url reason)
    | .ok r =>
      match m.next? r, left with
      | none, _ => return .ok r
      | some _, 0 => return .error (fault "error following redirect" m.url "too many redirects")
      | some m, left + 1 => follow left m
termination_by left => left

/-- How often a request may be sent on. -/
def redirectLimit : Nat := 9

end Outgoing

/-- The header that names a user. -/
def authorization (u : Url) : List (String × String) :=
  if u.user.isEmpty && u.password.isNone then []
  else
    let plain (s : String) : List UInt8 := Percent.decode s.toList
    let bytes := plain u.user ++ [':'.toUInt8] ++ plain (u.password.getD "")
    [("authorization", "Basic " ++ Base64.encode bytes)]

/-- **A request to the address in a text;** headers that are given win over those of the address. -/
def outgoing (method address : String) (headers : TextMap) (body : Option String) :
    Except Failure Outgoing :=
  match Url.ofText? address with
  | none => .error (.request "builder error: not a whole address of a server")
  | some u =>
    .ok ⟨method, u.anonymous, .ofList (authorization u ++ headers.entries), body⟩

/-- Send a request; the answer is that of the last server it is sent on to. -/
def send (m : Outgoing) : Errand (Except Failure Response) := m.follow Outgoing.redirectLimit

end SuiteRunner.Http

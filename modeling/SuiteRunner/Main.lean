import SuiteRunner.CommandLine.Program
import SuiteRunner.Http.Wire
import SuiteRunner.Outside.Samples
import SuiteRunner.Variables.Document
import Std.Async.DNS
import Std.Async.TCP
import Std.Time.DateTime.Timestamp

/-!
  SuiteRunner.Main
  ────────────────────────────────
  **THE PROGRAM IN THE REAL WORLD.**

  The outside of a run is answered here: files, servers, the environment, the clock and chance are
  those of the machine.  No browser tool and no database client is attached, so questions to them
  fail in the way the rest of the program is prepared for.  Nothing is decided here.
-/

namespace SuiteRunner.Main

/-! ## §1. Files. -/

/-- The refusals that have words of their own, by their numbers. -/
def faults : List (Nat × FileFault) :=
  [(2, .notFound), (17, .exists_), (20, .notDirectory), (21, .isDirectory)]

/-- The text of a refusal; its number may come with the sign turned. -/
def refusal (code : UInt32) (details : String) : String :=
  let number := if code < 0x80000000 then code.toNat else 0x100000000 - code.toNat
  match faults.lookup number with
  | some fault => fault.message
  | none => details.capitalize ++ " (os error " ++ toString number ++ ")"

/-- Why the system refuses. -/
def reasonOf : IO.Error → String
  | .noFileOrDirectory _ code details | .interrupted _ code details => refusal code details
  | .alreadyExists _ code details | .invalidArgument _ code details
  | .permissionDenied _ code details | .resourceExhausted _ code details
  | .inappropriateType _ code details | .noSuchThing _ code details => refusal code details
  | .otherError code details | .resourceBusy code details | .resourceVanished code details
  | .unsupportedOperation code details | .hardwareFault code details
  | .unsatisfiedConstraints code details | .illegalOperation code details
  | .protocolError code details | .timeExpired code details => refusal code details
  | e => toString e

/-- Do something that the system may refuse. -/
def attempt {α : Type} (act : IO α) : IO (Except String α) := do
  match ← act.toBaseIO with
  | .ok a => return .ok a
  | .error e => return .error (reasonOf e)

/-- The text of a file. -/
def readText (path : String) : IO (Except String String) := do
  match ← attempt (IO.FS.readBinFile path) with
  | .error reason => return .error reason
  | .ok bytes =>
    match String.fromUTF8? bytes with
    | some text => return .ok text
    | none => return .error "stream did not contain valid UTF-8"

/-- What is below a path, with the places of everything. -/
partial def below (path : String) : IO (List (List String × FileEntry)) := do
  let file := System.mkFilePath [path]
  if ← file.isDir then
    let names := (← file.readDir).toList.map fun entry => entry.fileName
    let parts ← names.mapM fun name => below (Path.join path name)
    return (Path.place path, .directory) :: parts.flatten
  else
    match ← readText path with
    | .ok text => return [(Path.place path, .text text)]
    | .error _ => return []

/-- All files below a directory. -/
def files (directory : String) : IO FileTree := do
  match ← attempt (below directory) with
  | .ok entries => return ⟨entries⟩
  | .error _ => return .empty

/-- The registry in a file, made if there is none. -/
def openRegistry (path : String) : IO (Except Failure Registry) := do
  let parent := Path.parent path
  let made ← if parent.isEmpty then pure (.ok ()) else attempt (IO.FS.createDirAll parent)
  match made with
  | .error reason => return .error (.io reason)
  | .ok () =>
    let file := System.mkFilePath [path]
    if ← file.isDir then return .error (.storage "unable to open database file")
    if !(← file.pathExists) then
      let written ← attempt (IO.FS.writeFile file "")
      match written with
      | .error _ => return .error (.storage "unable to open database file")
      | .ok () => return .ok .empty
    match ← readText path with
    | .error _ => return .error (.storage FileFault.badDatabase.message)
    | .ok text =>
      match Registry.ofText? text with
      | some r => return .ok r
      | none => return .error (.storage FileFault.badDatabase.message)

/-! ## §2. Servers. -/

/-- How many bytes are taken from a connection at once. -/
def portion : UInt64 := 65536

/-- Everything that comes over a connection until it is closed. -/
partial def receiveAll (client : Std.Async.TCP.Socket.Client) (sofar : List (List UInt8)) :
    Std.Async.Async (List UInt8) := do
  match ← client.recv? portion with
  | none => return sofar.reverse.flatten
  | some bytes => receiveAll client (bytes.toList :: sofar)

/-- The end of a connection at a server. -/
def socketAddress (address : Std.Net.IPAddr) (port : Nat) : Std.Net.SocketAddress :=
  match address with
  | .v4 a => .v4 ⟨a, UInt16.ofNat port⟩
  | .v6 a => .v6 ⟨a, UInt16.ofNat port⟩

/-- What the first server of some addresses sends back. -/
def converse (addresses : List Std.Net.IPAddr) (port : Nat) (bytes : List UInt8) :
    Std.Async.Async (List UInt8) := do
  match addresses with
  | [] => throw (IO.userError "the server has no address")
  | address :: _ =>
    let client ← Std.Async.TCP.Socket.Client.mk
    client.connect (socketAddress address port)
    client.send (ByteArray.mk bytes.toArray)
    receiveAll client []

/-- The name under which a server is looked up. -/
def lookupName (host : Http.Host) : String :=
  String.ofList (host.render.toList.filter fun c => c != '[' && c != ']')

/-- Send a request over a connection of its own. -/
def exchange (r : Http.Request) : IO (Except String Http.Response) := do
  match Http.Url.ofText? r.url with
  | none => return .error "not a whole address of a server"
  | some u =>
    if u.secure then return .error "no secure connection"
    let came ← attempt (Std.Async.Async.block do
      let addresses ← Std.Async.DNS.getAddrInfo (lookupName u.host) (toString u.portNumber)
      converse addresses.toList u.portNumber (r.bytes u))
    match came with
    | .error reason => return .error reason
    | .ok bytes =>
      match Http.Response.ofBytes? r (bytes.length + 1) bytes with
      | some response => return .ok response
      | none => return .error "the connection was closed"

/-! ## §3. Time and chance. -/

/-- The clock in milliseconds since 1970. -/
def clock : IO Int := do
  return (← Std.Time.Timestamp.now).toMillisecondsSinceUnixEpoch.val

/-- The time in nanoseconds since 1970. -/
def moment : IO Int := do
  return (← Std.Time.Timestamp.now).toNanosecondsSinceUnixEpoch.val

/-- Twelve bytes that nobody can guess. -/
def nonce : IO Nonce := do
  let random ← IO.getRandomBytes 12
  let bytes := (List.range 12).map fun i => random.data.getD i 0
  return ⟨bytes, by simp [bytes]⟩

/-- Show a text at once. -/
def show_ (text : String) : IO Unit := do
  let out ← IO.getStdout
  out.putStr text
  out.flush

/-! ## §4. All questions. -/

/-- **The answer of the machine to a question.** -/
def answer : (q : Request) → IO q.Answer
  | .createBrowser => return .error .browserToolMissing
  | .launchBrowser _ => return .error .browserToolMissing
  | .callBrowser _ _ => return .error .browserToolMissing
  | .closeBrowser _ => return .ok ()
  | .firstRow config _ _ => return .error config.unreachable
  | .exchange request => exchange request
  | .files directory => files directory
  | .readText path => readText path
  | .makeDirectories path => attempt (IO.FS.createDirAll path)
  | .writeText path text => attempt (IO.FS.writeFile path text)
  | .openRegistry path => openRegistry path
  | .saveRegistry path r => IO.FS.writeFile path r.toText
  | .variable name => IO.getEnv name
  | .clock => clock
  | .moment => moment
  | .draw below => IO.rand 0 (below - 1)
  | .madeUp kind => return kind.sample (← IO.rand 0 MadeUp.bound)
  | .nonce => nonce
  | .pause milliseconds => IO.sleep (UInt32.ofNat milliseconds)
  | .print text => show_ text

end SuiteRunner.Main

/-- Carry out the arguments, and end with the number of their ending. -/
def main (args : List String) : IO UInt32 := do
  let ending : SuiteRunner.CommandLine.Ending ←
    (SuiteRunner.CommandLine.program args).perform SuiteRunner.Main.answer
  IO.eprint ending.errors
  return UInt32.ofNat ending.code

import SuiteRunner.Bridge.Client

/-!
  SuiteRunner.Rehearsal.Pipe
  ────────────────────────────────
  **A SCRIPTED BRIDGE.**

  The process answers its n-th request with the n-th list of lines of the script, and ends at the
  first request for which there is none.  A new process starts the script again.
-/

namespace SuiteRunner.Rehearsal

open Bridge (LineRead PipeQuery)

/-- A scripted bridge process. -/
structure Pipe where
  installed : Bool := true
  script : List (List String) := []
  alive : Bool := false
  /-- What is left of the script for this process. -/
  ahead : List (List String) := []
  /-- Lines that were written and not read. -/
  unread : List LineRead := []
  sent : List String := []
  deriving Inhabited

namespace Pipe

/-- Take a request. -/
def take (line : String) (p : Pipe) : Except Failure Unit × Pipe :=
  if !p.alive then (.error (.io "Broken pipe (os error 32)"), p)
  else
    let p := { p with sent := p.sent ++ [line] }
    match p.ahead with
    | lines :: rest => (.ok (), { p with ahead := rest, unread := p.unread ++ lines.map .ok })
    | [] => (.ok (), { p with alive := false })

/-- The answer of a scripted bridge, and the bridge after it. -/
def answer : (q : PipeQuery) → Pipe → q.Answer × Pipe
  | .toolInstalled, p => (p.installed, p)
  | .start, p => (.ok (), { p with alive := true, ahead := p.script, unread := [] })
  | .send line, p => p.take line
  | .receive id, p =>
    let (a, unread) := Bridge.firstAnswer id p.unread
    (a, { p with unread := unread })
  | .stop, p => ((), { p with alive := false, unread := [] })

/-- The result of a client's task with a scripted bridge. -/
def run {α : Type} (t : Bridge.ClientTask α) (s : Bridge.Client) (p : Pipe) :
    Except Failure α × Bridge.Client × Pipe :=
  let ((r, s), p) := Program.perform (S := Bridge.pipe) (m := StateM Pipe) answer (t s) p
  (r, s, p)

end Pipe

end SuiteRunner.Rehearsal

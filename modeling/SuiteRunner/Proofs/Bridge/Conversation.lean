import Mathlib.Data.List.Nodup
import Mathlib.Data.List.Range
import SuiteRunner.Bridge.Client

/-!
  SuiteRunner.Proofs.Bridge.Conversation
  ────────────────────────────────
  **REQUESTS AND ANSWERS THAT MAY COME LATE.**

  A client talks to one process after another over a wire.  A process may write any lines, in any
  order and as often as it likes, some of them may not be readable, and a request may be given up
  after some of them were read; what it did not read is left to the requests after it.

    • `request_eq` — a request as a program on the wire,
    • `exists_front` — what a request passes over, and what it comes upon,
    • `Record.effect` — what one request does, whatever becomes of it,
    • `Conversation.orderly_step` — requests are numbered in a row, and each of them is settled.

  `answers_never_cross` is the statement for every conversation.
-/

namespace SuiteRunner.Bridge

/-! ## §1. The line that a request takes. -/

/-- A line that says nothing to the request with a number: it can be read, and it is no answer or
one to another request. -/
def Foreign (id : Nat) (read : LineRead) : Prop :=
  ∃ line, read = .ok line ∧ ∀ a, Answer.ofLine? line = some a → a.id ≠ id

theorem answerTo?_eq_some_iff {id : Nat} {line : String} {a : Answer} :
    answerTo? id line = some a ↔ Answer.ofLine? line = some a ∧ a.id = id := by
  unfold answerTo?
  rw [Option.filter_eq_some_iff, beq_iff_eq]

theorem answerTo?_eq_none_iff {id : Nat} {line : String} :
    answerTo? id line = none ↔ Foreign id (.ok line) := by
  unfold answerTo? Foreign
  rw [Option.filter_eq_none_iff]
  simp only [Except.ok.injEq, exists_eq_left', beq_iff_eq]

/-- Lines that say nothing to a request are passed over. -/
theorem firstAnswer_foreign {id : Nat} {read : LineRead} (h : Foreign id read)
    (rest : List LineRead) : firstAnswer id (read :: rest) = firstAnswer id rest := by
  cases read with
  | error e => exact nomatch h
  | ok line => rw [firstAnswer, answerTo?_eq_none_iff.mpr h]

/-- **What a request passes over, and what it comes upon:** the end of all lines, or one that says
something to it. -/
theorem exists_front (id : Nat) (lines : List LineRead) :
    ∃ skipped ahead, lines = skipped ++ ahead ∧ (∀ l ∈ skipped, Foreign id l) ∧
      firstAnswer id lines = firstAnswer id ahead ∧ ∀ l ∈ ahead.head?, ¬Foreign id l := by
  induction lines with
  | nil => exact ⟨[], [], rfl, fun _ hnil => absurd hnil List.not_mem_nil, rfl, nofun⟩
  | cons read rest ih =>
    by_cases hforeign : Foreign id read
    · obtain ⟨skipped, ahead, rfl, hskipped, hsame, hahead⟩ := ih
      refine ⟨read :: skipped, ahead, rfl, ?_, ?_, hahead⟩
      · exact List.forall_mem_cons.mpr ⟨hforeign, hskipped⟩
      · rw [firstAnswer_foreign hforeign, hsame]
    · refine ⟨[], read :: rest, rfl, fun _ hnil => absurd hnil List.not_mem_nil, rfl, ?_⟩
      simpa using hforeign

/-! ## §2. A request on the wire. -/

/-- What becomes of a call. -/
structure Fate where
  /-- What comes of reading a process that is started by it, up to its end. -/
  lines : List LineRead := []
  /-- Whether the process can be sent a line. -/
  written : Except Failure Unit := .ok ()
  /-- After how many lines a request is given up; none if it is waited for. -/
  givenUp : Option Nat := none

/-- The wire between a client and a process. -/
structure Wire where
  /-- The lines of the process that nobody has tried to read yet, up to its end. -/
  unread : List LineRead := []
  /-- The lines that were sent, also to the processes before it. -/
  sent : List String := []

/-- What the wire answers during a call; a request that is given up gets no answer. -/
def Wire.answer (f : Fate) : (q : PipeQuery) → Wire → q.Answer × Wire
  | .toolInstalled, w => (true, w)
  | .start, w => (.ok (), { w with unread := f.lines })
  | .send line, w =>
    match f.written with
    | .ok _ => (.ok (), { w with sent := w.sent ++ [line] })
    | .error e => (.error e, w)
  | .receive id, w =>
    match f.givenUp with
    | none => ((firstAnswer id w.unread).1, { w with unread := (firstAnswer id w.unread).2 })
    | some n => (.ok none, { w with unread := w.unread.drop n })
  | .stop, w => ((), { w with unread := [] })

/-- What a client does on the wire: its result, the client and the wire after it. -/
def ClientTask.perform {α : Type} (t : ClientTask α) (f : Fate) (c : Client) (w : Wire) :
    Except Failure α × Client × Wire :=
  let ((r, c), w) := Program.perform (S := pipe) (m := StateM Wire) (Wire.answer f) (t c) w
  (r, c, w)

/-- What a request makes of its answer, if there is one. -/
def settle (method : String) : Except Failure (Option Answer) → Except Failure Json
  | .ok (some a) => a.value method
  | .ok none => .error (.driver "Playwright bridge exited")
  | .error e => .error e

/-- **A request as a program:** its number is the next one, its line is sent, and its answer is
waited for. -/
theorem request_eq (target : Json) (method : String) (args : List Json) (c : Client) :
    request target method args c =
      if c.running then
        .ask (S := pipe) (.send (requestLine (c.lastId + 1) target method args)) fun
          | .error e => .done (.error e, { c with lastId := c.lastId + 1 })
          | .ok _ => .ask (S := pipe) (.receive (c.lastId + 1)) fun a =>
            .done (settle method a, { c with lastId := c.lastId + 1 })
      else .done (.error (.driver "bridge not running"), { c with lastId := c.lastId + 1 }) := by
  obtain ⟨running, lastId⟩ := c
  cases running with
  | false => rfl
  | true =>
    show Program.ask (S := pipe) _ _ = .ask (S := pipe) _ _
    congr 1
    funext written
    cases written with
    | error e => rfl
    | ok _ =>
      show Program.ask (S := pipe) _ _ = .ask (S := pipe) _ _
      congr 1
      funext answer
      cases answer with
      | error e => rfl
      | ok a => cases a <;> rfl

/-! ## §3. A request on trial. -/

/-- A request, and what becomes of it. -/
structure Trial where
  target : Json
  method : String
  args : List Json
  fate : Fate := {}

/-- The client after one more request: a number is used up, whatever comes of it. -/
def Client.next (c : Client) : Client := { c with lastId := c.lastId + 1 }

namespace Trial

/-- What a request does on the wire. -/
def perform (t : Trial) (c : Client) (w : Wire) : Except Failure Json × Client × Wire :=
  (request t.target t.method t.args).perform t.fate c w

/-- The line of a request. -/
def line (t : Trial) (id : Nat) : String := requestLine id t.target t.method t.args

variable {t : Trial} {c : Client} {w : Wire}

/-- Without a process a request fails. -/
theorem perform_idle (hrunning : c.running = false) :
    t.perform c w = (.error (.driver "bridge not running"), c.next, w) := by
  obtain ⟨running, lastId⟩ := c
  cases hrunning
  rfl

/-- A request whose line cannot be written fails. -/
theorem perform_unwritten {e : Failure} (hrunning : c.running = true)
    (hwritten : t.fate.written = .error e) : t.perform c w = (.error e, c.next, w) := by
  obtain ⟨running, lastId⟩ := c
  obtain ⟨target, method, args, lines, written, givenUp⟩ := t
  cases hrunning
  cases hwritten
  rfl

/-- A request that is given up was sent, and some lines were read. -/
theorem perform_givenUp {n : Nat} (hrunning : c.running = true)
    (hwritten : t.fate.written = .ok ()) (hgivenUp : t.fate.givenUp = some n) :
    t.perform c w = (settle t.method (.ok none), c.next,
      ⟨w.unread.drop n, w.sent ++ [t.line (c.lastId + 1)]⟩) := by
  obtain ⟨running, lastId⟩ := c
  obtain ⟨target, method, args, lines, written, givenUp⟩ := t
  cases hrunning
  cases hwritten
  cases hgivenUp
  rfl

/-- A request that is waited for settles on the first answer to it. -/
theorem perform_awaited (hrunning : c.running = true) (hwritten : t.fate.written = .ok ())
    (hgivenUp : t.fate.givenUp = none) :
    t.perform c w = (settle t.method (firstAnswer (c.lastId + 1) w.unread).1, c.next,
      ⟨(firstAnswer (c.lastId + 1) w.unread).2, w.sent ++ [t.line (c.lastId + 1)]⟩) := by
  obtain ⟨running, lastId⟩ := c
  obtain ⟨target, method, args, lines, written, givenUp⟩ := t
  cases hrunning
  cases hwritten
  cases hgivenUp
  unfold perform ClientTask.perform
  rw [request_eq]
  rfl

end Trial

/-- What is known of a request. -/
structure Record where
  trial : Trial
  id : Nat
  /-- Whether there was a process, and the line could be sent to it. -/
  sent : Bool
  /-- The lines that were unread before it. -/
  ahead : List LineRead
  /-- The lines that were unread after it. -/
  behind : List LineRead
  /-- Its result, unless it was given up. -/
  result : Option (Except Failure Json)

namespace Record

/-- The record of a request on trial. -/
def of (t : Trial) (c : Client) (w : Wire) : Record :=
  let (result, after, wire) := t.perform c w
  let sent := c.running && t.fate.written.toBool
  { trial := t, id := after.lastId, sent := sent, ahead := w.unread, behind := wire.unread,
    result := if sent && t.fate.givenUp.isSome then none else some result }

/-- **A request took an answer:** it is in the first unread line that is an answer to it. -/
def Took (r : Record) (a : Answer) : Prop :=
  ∃ skipped line, r.ahead = skipped ++ .ok line :: r.behind ∧ (∀ l ∈ skipped, Foreign r.id l) ∧
    Answer.ofLine? line = some a ∧ a.id = r.id ∧ r.result = some (a.value r.trial.method)

/-- A request came to the end of the process. -/
def Exited (r : Record) : Prop :=
  (∀ l ∈ r.ahead, Foreign r.id l) ∧ r.behind = [] ∧
    r.result = some (.error (.driver "Playwright bridge exited"))

/-- A request came upon a line that could not be read, before any answer to it. -/
def Broke (r : Record) (e : Failure) : Prop :=
  ∃ skipped, r.ahead = skipped ++ .error e :: r.behind ∧ (∀ l ∈ skipped, Foreign r.id l) ∧
    r.result = some (.error e)

/-- **How a request ended.** -/
structure Settled (r : Record) : Prop where
  /-- One that is waited for takes its answer, or there is none up to the end or up to a line that
  cannot be read. -/
  awaited : r.sent = true → r.trial.fate.givenUp = none →
    (∃ a, r.Took a) ∨ r.Exited ∨ ∃ e, r.Broke e
  /-- One that is given up has read some lines, and nothing came of them. -/
  givenUp : ∀ n, r.sent = true → r.trial.fate.givenUp = some n →
    r.behind = r.ahead.drop n ∧ r.result = none
  /-- One that was not sent fails, and reads nothing. -/
  unsent : r.sent = false → r.behind = r.ahead ∧ ∃ e, r.result = some (.error e)

variable {t : Trial} {c : Client} {w : Wire}

/-- What a request does: `r` is its record, and `client` and `wire` are left by it. -/
structure Effect (t : Trial) (c : Client) (w : Wire) (r : Record) (client : Client) (wire : Wire) :
    Prop where
  trial : r.trial = t
  id : r.id = c.lastId + 1
  client : client = c.next
  sent : wire.sent = w.sent ++ if r.sent then [t.line r.id] else []
  ahead : r.ahead = w.unread
  behind : r.behind = wire.unread
  settled : r.Settled

/-- The record of a request, by what it does on the wire. -/
theorem of_eq {result : Except Failure Json} {wire : Wire}
    (hperform : t.perform c w = (result, c.next, wire)) :
    of t c w =
      { trial := t, id := c.lastId + 1, sent := c.running && t.fate.written.toBool,
        ahead := w.unread, behind := wire.unread,
        result := if c.running && t.fate.written.toBool && t.fate.givenUp.isSome then none
          else some result } := by
  unfold of
  rw [hperform]
  rfl

/-- **The effect of a request, by what it does on the wire:** what is left to show is that its line
was sent if it could be, and how it ended. -/
theorem effect_of_perform {result : Except Failure Json} {wire : Wire}
    (hperform : t.perform c w = (result, c.next, wire))
    (hsent : wire.sent
      = w.sent ++ if c.running && t.fate.written.toBool then [t.line (c.lastId + 1)] else [])
    (hsettled : (of t c w).Settled) :
    Effect t c w (of t c w) (t.perform c w).2.1 (t.perform c w).2.2 := by
  have hrecord := of_eq hperform
  rw [hperform]
  exact
    { trial := rfl
      id := by rw [hrecord]
      client := rfl
      sent := by rw [hrecord, hsent]
      ahead := rfl
      behind := by rw [hrecord]
      settled := hsettled }

/-- A request that was not sent. -/
theorem effect_unsent {e : Failure} (hsent : (c.running && t.fate.written.toBool) = false)
    (hperform : t.perform c w = (.error e, c.next, w)) :
    Effect t c w (of t c w) (t.perform c w).2.1 (t.perform c w).2.2 := by
  refine effect_of_perform hperform (by rw [hsent]; exact (List.append_nil w.sent).symm) ?_
  rw [of_eq hperform, hsent]
  exact
    { awaited := fun hsent => nomatch hsent
      givenUp := fun _ hsent => nomatch hsent
      unsent := fun _ => ⟨rfl, e, rfl⟩ }

/-- A request that is given up. -/
theorem effect_givenUp {n : Nat} (hrunning : c.running = true) (hwritten : t.fate.written = .ok ())
    (hgivenUp : t.fate.givenUp = some n) :
    Effect t c w (of t c w) (t.perform c w).2.1 (t.perform c w).2.2 := by
  have hperform := Trial.perform_givenUp (w := w) hrunning hwritten hgivenUp
  refine effect_of_perform hperform (by rw [hrunning, hwritten]; rfl) ?_
  rw [of_eq hperform, hrunning, hwritten, hgivenUp]
  exact
    { awaited := fun _ hnone => nomatch hgivenUp.symm.trans hnone
      givenUp := fun m _ hsome => by
        cases hgivenUp.symm.trans hsome
        exact ⟨rfl, rfl⟩
      unsent := fun hsent => nomatch hsent }

/-- **How a request that is waited for ends:** by what it comes upon. -/
theorem awaited_of_firstAnswer {r : Record} {taken : Except Failure (Option Answer)}
    (hfirst : firstAnswer r.id r.ahead = (taken, r.behind))
    (hresult : r.result = some (settle r.trial.method taken)) :
    (∃ a, r.Took a) ∨ r.Exited ∨ ∃ e, r.Broke e := by
  obtain ⟨skipped, ahead, hlines, hskipped, hsame, hahead⟩ := exists_front r.id r.ahead
  rw [hsame] at hfirst
  -- what stands before the first line that is not foreign decides: nothing, a failure, an answer
  cases ahead with
  | nil =>
    obtain ⟨rfl, hbehind⟩ := Prod.mk.inj hfirst
    refine .inr (.inl ⟨?_, hbehind.symm, hresult⟩)
    rw [hlines, List.append_nil]
    exact hskipped
  | cons read rest =>
    cases read with
    | error e =>
      obtain ⟨rfl, rfl⟩ := Prod.mk.inj hfirst
      exact .inr (.inr ⟨e, skipped, hlines, hskipped, hresult⟩)
    | ok line =>
      have hforeign : ¬Foreign r.id (.ok line) := hahead _ rfl
      rw [← answerTo?_eq_none_iff, ← ne_eq, Option.ne_none_iff_exists'] at hforeign
      obtain ⟨a, ha⟩ := hforeign
      rw [firstAnswer, ha] at hfirst
      obtain ⟨rfl, rfl⟩ := Prod.mk.inj hfirst
      obtain ⟨hline, hid⟩ := answerTo?_eq_some_iff.mp ha
      exact .inl ⟨a, skipped, line, hlines, hskipped, hline, hid, hresult⟩

/-- A request that is waited for. -/
theorem effect_awaited (hrunning : c.running = true) (hwritten : t.fate.written = .ok ())
    (hgivenUp : t.fate.givenUp = none) :
    Effect t c w (of t c w) (t.perform c w).2.1 (t.perform c w).2.2 := by
  have hperform := Trial.perform_awaited (w := w) hrunning hwritten hgivenUp
  refine effect_of_perform hperform (by rw [hrunning, hwritten]; rfl) ?_
  rw [of_eq hperform, hrunning, hwritten, hgivenUp]
  exact
    { awaited := fun _ _ => awaited_of_firstAnswer rfl rfl
      givenUp := fun _ _ hsome => nomatch hgivenUp.symm.trans hsome
      unsent := fun hsent => nomatch hsent }

/-- **What one request does:** it uses up one number, sends one line at most, and is settled. -/
theorem effect (t : Trial) (c : Client) (w : Wire) :
    Effect t c w (of t c w) (t.perform c w).2.1 (t.perform c w).2.2 := by
  cases hrunning : c.running with
  | false => exact effect_unsent (by rw [hrunning]; rfl) (Trial.perform_idle hrunning)
  | true =>
    cases hwritten : t.fate.written with
    | error e =>
      exact effect_unsent (by rw [hrunning, hwritten]; rfl)
        (Trial.perform_unwritten hrunning hwritten)
    | ok _ =>
      cases hgivenUp : t.fate.givenUp with
      | none => exact effect_awaited hrunning hwritten hgivenUp
      | some n => exact effect_givenUp hrunning hwritten hgivenUp

end Record

/-! ## §4. Conversations. -/

/-- What happens in a conversation. -/
inductive Move where
  /-- A process is started, unless there is one; this comes of reading it up to its end. -/
  | start (lines : List LineRead)
  | request (t : Trial)
  /-- The process is stopped, and what it wrote is lost. -/
  | stop

/-- A client, the wire, and the requests there were. -/
structure Conversation where
  client : Client := {}
  wire : Wire := {}
  records : List Record := []

namespace Conversation

/-- **One move of a conversation.** -/
def step (k : Conversation) : Move → Conversation
  | .start lines =>
    let (_, client, wire) := start.perform { lines := lines } k.client k.wire
    { k with client := client, wire := wire }
  | .request t =>
    let (_, client, wire) := t.perform k.client k.wire
    { client := client, wire := wire, records := k.records ++ [.of t k.client k.wire] }
  | .stop =>
    { k with client := { k.client with running := false }, wire := { k.wire with unread := [] } }

/-- A conversation of a new client. -/
def run (moves : List Move) : Conversation := moves.foldl step {}

/-- A process is started only if there is none; neither numbers nor what was sent change. -/
theorem step_start (k : Conversation) (lines : List LineRead) :
    k.step (.start lines) =
      if k.client.running then k
      else { k with client := { k.client with running := true },
                    wire := { k.wire with unread := lines } } := by
  obtain ⟨⟨running, lastId⟩, wire, records⟩ := k
  cases running <;> rfl

/-- **What holds all along a conversation:** the requests are numbered from one on, what was sent
are the lines of those that could be sent, and each of them is settled. -/
structure Orderly (k : Conversation) : Prop where
  ids : k.records.map Record.id = List.range' 1 k.client.lastId
  sent : k.wire.sent = (k.records.filter Record.sent).map fun r => r.trial.line r.id
  settled : ∀ r ∈ k.records, r.Settled

theorem orderly_step {k : Conversation} (h : k.Orderly) (m : Move) : (k.step m).Orderly := by
  cases m with
  | start lines =>
    rw [step_start]
    by_cases hrunning : k.client.running = true
    · rw [if_pos hrunning]
      exact h
    · rw [if_neg hrunning]
      exact ⟨h.ids, h.sent, h.settled⟩
  | stop => exact ⟨h.ids, h.sent, h.settled⟩
  -- a request adds one record; the id and the line that it adds are in its effect
  | request t =>
    have heffect := Record.effect t k.client k.wire
    exact
      { ids := by
          show (k.records ++ [Record.of t k.client k.wire]).map Record.id
            = List.range' 1 (t.perform k.client k.wire).2.1.lastId
          rw [List.map_append, List.map_singleton, h.ids, heffect.id, heffect.client]
          exact (List.range'_1_concat.trans (by rw [Nat.add_comm])).symm
        sent := by
          show (t.perform k.client k.wire).2.2.sent
            = ((k.records ++ [Record.of t k.client k.wire]).filter Record.sent).map _
          rw [heffect.sent, h.sent, List.filter_append, List.map_append]
          congr 1
          rw [List.filter_singleton]
          cases (Record.of t k.client k.wire).sent with
          | false => rfl
          | true =>
            show [t.line _] = [(Record.of t k.client k.wire).trial.line _]
            rw [heffect.trial]
        settled := by
          intro r hr
          obtain hr | hr := List.mem_append.mp hr
          · exact h.settled r hr
          · rw [List.mem_singleton.mp hr]
            exact heffect.settled }

/-- Every conversation of a new client is orderly. -/
theorem orderly_run (moves : List Move) : (run moves).Orderly := by
  -- from the last move back: each one is made after a conversation of which this holds
  induction moves using List.reverseRecOn with
  | nil => exact ⟨rfl, rfl, fun _ hnil => absurd hnil List.not_mem_nil⟩
  | append_singleton moves m ih =>
    show (List.foldl step {} (moves ++ [m])).Orderly
    rw [List.foldl_append]
    exact orderly_step ih m

variable {k : Conversation}

/-- The number of a request is its place in the conversation. -/
theorem Orderly.id_eq (h : k.Orderly) {i : Nat} {r : Record} (hr : k.records[i]? = some r) :
    r.id = i + 1 := by
  have hid : (k.records.map Record.id)[i]? = some r.id := by
    rw [List.getElem?_map, hr]
    rfl
  rw [h.ids] at hid
  obtain ⟨hlt, hget⟩ := List.getElem?_eq_some_iff.mp hid
  rw [List.getElem_range', Nat.one_mul, Nat.add_comm] at hget
  exact hget.symm

/-- **ANSWERS NEVER CROSS.**  Whatever the processes write, whichever lines cannot be read, whichever
requests are given up and however many lines were read for them by then: every request has a number
of its own, which fits into 64 bits if there are fewer than 2⁶⁴ of them, and the lines sent are
those of the requests that could be sent.  A request that is waited for returns what is said in the
first unread line that is an answer to it, whatever other lines stand before it; or it fails,
because the process exited or a line could not be read before there was such an answer.  So if every
answer that was made for a request bears the number of that request, then no request ever takes an
answer that was made for another. -/
theorem answers_never_cross (moves : List Move) :
    let records := (run moves).records
    (records.map Record.id).Nodup ∧
    (∀ r ∈ records, 1 ≤ r.id ∧ r.id ≤ records.length) ∧
    (run moves).wire.sent = (records.filter Record.sent).map (fun r => r.trial.line r.id) ∧
    (∀ r ∈ records, r.Settled) ∧
    ∀ madeFor : Answer → Nat → Prop,
      (∀ a i, madeFor a i → ∃ r, records[i]? = some r ∧ r.id = a.id) →
      ∀ i j r a, records[j]? = some r → r.Took a → madeFor a i → i = j := by
  intro records
  have horderly := orderly_run moves
  refine ⟨?_, ?_, horderly.sent, horderly.settled, ?_⟩
  · rw [horderly.ids]
    exact List.nodup_range'
  · intro r hr
    obtain ⟨i, hi⟩ := List.getElem?_of_mem hr
    rw [horderly.id_eq hi]
    exact ⟨Nat.le_add_left 1 i, (List.getElem?_eq_some_iff.mp hi).1⟩
  · rintro madeFor hmade i j r a hr ⟨_, _, -, -, -, hid, -⟩ hfor
    -- both requests have the number of the answer, and the number is the place
    obtain ⟨r', hr', hid'⟩ := hmade a i hfor
    have hplaces : i + 1 = j + 1 := by
      rw [← horderly.id_eq hr', ← horderly.id_eq hr, hid', hid]
    exact Nat.succ.inj hplaces

/-- The first request is given up, and its answer is still unread when the second one waits. -/
def late : List Move := [
  .start [.ok "\x7b\"id\":1,\"ok\":true,\"result\":\"Shop\"\x7d", .ok "starting",
    .ok "\x7b\"id\":2,\"ok\":true,\"result\":7\x7d"],
  .request ⟨.null, "title", [], { givenUp := some 0 }⟩,
  .request ⟨.null, "count", [], {}⟩]

/-- The second request passes over the answer to the first one and takes its own. -/
theorem answers_never_cross_late :
    ((run late).records.map Record.id).Nodup ∧
      ∃ r a, (run late).records[1]? = some r ∧ r.Took a ∧
        ∀ i, (a.id = i + 1 ∧ i < (run late).records.length) → i = 1 := by
  obtain ⟨hnodup, -, -, hsettled, hcross⟩ := answers_never_cross late
  have hsecond : ((run late).records[1]?.map fun r => (r.sent, r.trial.fate.givenUp,
      r.result.map fun result => result.toOption.isSome)) = some (true, none, some true) := by
    decide +kernel
  obtain ⟨r, hr, hfields⟩ := Option.map_eq_some_iff.mp hsecond
  obtain ⟨hsent, hrest⟩ := Prod.mk.inj hfields
  obtain ⟨hwaits, hresult⟩ := Prod.mk.inj hrest
  have hmem : r ∈ (run late).records := List.mem_of_getElem? hr
  obtain ⟨a, htook⟩ | ⟨-, -, hexited⟩ | ⟨e, -, -, -, hbroke⟩ :=
    (hsettled r hmem).awaited hsent hwaits
  · refine ⟨hnodup, r, a, hr, htook, fun i hi => ?_⟩
    refine hcross (fun a i => a.id = i + 1 ∧ i < (run late).records.length) ?_ i 1 r a hr htook hi
    rintro a i ⟨hid, hlt⟩
    exact ⟨_, List.getElem?_eq_getElem hlt,
      ((orderly_run late).id_eq (List.getElem?_eq_getElem hlt)).trans hid.symm⟩
  · rw [hexited] at hresult
    cases hresult
  · rw [hbroke] at hresult
    cases hresult

end Conversation

end SuiteRunner.Bridge

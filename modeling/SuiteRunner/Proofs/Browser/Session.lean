import SuiteRunner.Browser.Session
import SuiteRunner.Proofs.Outside.Transcript

/-!
  SuiteRunner.Proofs.Browser.Session
  ────────────────────────────────
  **WHAT A SESSION ASKS OF BROWSERS.**

  A session reaches browsers in three ways: it starts one, makes a call and closes it.  For each of
  them an inductive lists every way in which it can go, with what is asked, what comes of it and the
  session afterwards.  What follows about browsers and pages uses these lists and does not open the
  three tasks again:

    • `opens_of_runs` — a browser is started unless there is one,
    • `runs_call_iff` — a call goes to the browser of the session and leaves the session alone,
    • `closes_of_runs` — the session is closed whatever the browser answers,
    • `runs_page` — the active page is the one of the session that has been opened.

  Keywords are put together from a few pieces: a call to the context, a call to the active page, a
  page that is opened and then followed, the way back to the main page, and whatever has nothing to
  do with browsers.  `Orderly` is the grammar of such tasks.  What holds of each piece and survives
  putting tasks in a row holds of every orderly task, so each property of keywords is one induction
  over the grammar, and a new keyword only has to be derived in it.
-/

namespace SuiteRunner

/-- Whether a question is put to browsers. -/
def Request.toBrowsers : Request → Bool
  | .createBrowser | .launchBrowser _ | .callBrowser _ _ | .closeBrowser _ => true
  | _ => false

namespace Session

variable {s s' : Session} {log : Log}

/-! ## §1. Starting a browser. -/

/-- **The ways in which starting a browser can go.** -/
inductive Opens (s : Session) : Log → Except Failure Unit → Session → Prop where
  | already (hopen : s.isOpen = true) : Opens s [] (.ok ()) s
  | notMade (hclosed : s.isOpen = false) (e : Failure) :
      Opens s [⟨.createBrowser, .error e⟩] (.error e) s
  | notStarted (hclosed : s.isOpen = false) (b : Nat) (e : Failure) :
      Opens s [⟨.createBrowser, .ok b⟩, ⟨.launchBrowser b, .error e⟩] (.error e) s
  | started (hclosed : s.isOpen = false) (b : Nat) (page : String) :
      Opens s [⟨.createBrowser, .ok b⟩, ⟨.launchBrowser b, .ok page⟩] (.ok ())
        ⟨some b, [page], some page⟩

/-- **What opening a session comes to:** a browser was open, or one is made and launched, and each
of these may fail. -/
theorem opens_of_runs {r : Except Failure Unit} (h : Task.Runs open_ s log r s') :
    Opens s log r s' := by
  have hlook := Task.runs_get_bind_iff.mp h
  cases hs : s.isOpen with
  | true =>
    rw [if_pos hs] at hlook
    obtain ⟨rfl, rfl, rfl⟩ := Task.runs_pure_iff.mp hlook
    exact .already hs
  | false =>
    rw [if_neg (by rw [hs]; exact Bool.false_ne_true)] at hlook
    obtain ⟨made, _, rfl, hmade⟩ := Task.runs_ask_bind_iff.mp hlook
    obtain ⟨e, rfl, rfl, rfl, rfl⟩ | ⟨b, rfl, hlaunch⟩ := Task.runs_ofExcept_bind_iff.mp hmade
    · exact .notMade hs e
    obtain ⟨started, _, rfl, hstarted⟩ := Task.runs_ask_bind_iff.mp hlaunch
    obtain ⟨e, rfl, rfl, rfl, rfl⟩ | ⟨page, rfl, hset⟩ := Task.runs_ofExcept_bind_iff.mp hstarted
    · exact .notStarted hs b e
    obtain ⟨rfl, rfl, rfl⟩ := Task.runs_set_iff.mp hset
    exact .started hs b page

/-! ## §2. Calls. -/

/-- **The ways in which a call can go.** -/
inductive Calls (c : BrowserCall) (s : Session) : Log → Except Failure Json → Prop where
  | nowhere (hnone : s.browser = none) : Calls c s [] (.error .noActivePage)
  | asked (b : Nat) (hb : s.browser = some b) (a : Except Failure Json) :
      Calls c s [⟨.callBrowser b c, a⟩] a

/-- A call asks for one thing or finds no browser open, and leaves the session as it was. -/
theorem runs_call_iff {c : BrowserCall} {r : Except Failure Json} :
    Task.Runs (call c) s log r s' ↔ Calls c s log r ∧ s' = s := by
  show Task.Runs (get >>= _) s log r s' ↔ _
  rw [Task.runs_get_bind_iff]
  -- without a browser there is nobody to ask
  cases hs : s.browser with
  | none =>
    constructor
    · intro h
      obtain ⟨rfl, rfl, rfl⟩ := Task.runs_throw_iff.mp h
      exact ⟨.nowhere hs, rfl⟩
    · rintro ⟨hcalls, rfl⟩
      apply Task.runs_throw_iff.mpr
      cases hcalls with
      | nowhere => exact ⟨rfl, rfl, rfl⟩
      | asked b hb => rw [hs] at hb; cases hb
  | some b =>
    constructor
    · intro h
      obtain ⟨a, _, rfl, hanswer⟩ := Task.runs_ask_bind_iff.mp h
      obtain ⟨rfl, rfl, rfl⟩ := Task.runs_ofExcept_iff.mp hanswer
      exact ⟨.asked b hs _, rfl⟩
    · rintro ⟨hcalls, rfl⟩
      apply Task.runs_ask_bind_iff.mpr
      cases hcalls with
      | nowhere hnone => rw [hs] at hnone; cases hnone
      | asked b' hb =>
        rw [hs] at hb
        cases hb
        exact ⟨r, [], rfl, Task.runs_ofExcept_iff.mpr ⟨rfl, rfl, rfl⟩⟩

/-! ## §3. Closing. -/

/-- **The ways in which closing a session can go;** the session is closed in each of them. -/
inductive Closes (s : Session) : Log → Except Failure Unit → Prop where
  | nothing (hnone : s.browser = none) : Closes s [] (.ok ())
  | asked (b : Nat) (hb : s.browser = some b) (a : Except Failure Unit) :
      Closes s [⟨.closeBrowser b, a⟩] a

/-- **Closing a session** closes the browser that is open, and leaves none open even if that fails.
-/
theorem closes_of_runs {r : Except Failure Unit} (h : Task.Runs close s log r s') :
    Closes s log r ∧ s' = closed := by
  have hlook := Task.runs_get_bind_iff.mp h
  obtain ⟨e, -, hfails⟩ | ⟨first, last, _, m, rfl, hset, hclose⟩ :=
    (Task.runs_bind_iff _ _).mp hlook
  · cases (Task.runs_set_iff.mp hfails).2.1
  obtain ⟨rfl, -, rfl⟩ := Task.runs_set_iff.mp hset
  rw [List.nil_append]
  cases hs : s.browser with
  | none =>
    rw [hs] at hclose
    obtain ⟨rfl, rfl, rfl⟩ := Task.runs_pure_iff.mp hclose
    exact ⟨.nothing hs, rfl⟩
  | some b =>
    rw [hs] at hclose
    obtain ⟨a, _, rfl, hanswer⟩ := Task.runs_ask_bind_iff.mp hclose
    obtain ⟨rfl, rfl, rfl⟩ := Task.runs_ofExcept_iff.mp hanswer
    exact ⟨.asked b hs _, rfl⟩

/-! ## §4. The active page. -/

/-- **The active page is that of the session that has been opened;** without one there is a
failure, and nothing more is asked. -/
theorem runs_page {r : Except Failure String} (h : Task.Runs page s log r s') :
    (∃ e, r = .error e ∧ Opens s log (.error e) s') ∨
      Opens s log (.ok ()) s' ∧ r = s'.active.elim (.error .noActivePage) .ok := by
  obtain ⟨e, rfl, hfails⟩ | ⟨first, last, _, m, rfl, hopens, hrest⟩ :=
    (Task.runs_bind_iff _ _).mp h
  · exact .inl ⟨e, rfl, opens_of_runs hfails⟩
  have hlook := Task.runs_get_bind_iff.mp hrest
  cases hm : m.active with
  | none =>
    rw [hm] at hlook
    obtain ⟨rfl, rfl, rfl⟩ := Task.runs_throw_iff.mp hlook
    rw [List.append_nil, hm]
    exact .inr ⟨opens_of_runs hopens, rfl⟩
  | some p =>
    rw [hm] at hlook
    obtain ⟨rfl, rfl, rfl⟩ := Task.runs_pure_iff.mp hlook
    rw [List.append_nil, hm]
    exact .inr ⟨opens_of_runs hopens, rfl⟩

/-! ## §5. What keywords do. -/

variable {α β : Type}

/-- Make a call to the active page. -/
def callActive (c : String → BrowserCall) : Task Session Json := do
  let p ← page
  call (c p)

/-- An expectation is a call to the active page whose answer is dropped. -/
theorem expect_eq (selector : Option String) (negated : Bool) (method : String)
    (args : List Json) :
    expect selector negated method args
      = callActive (fun p => ⟨.expectation p selector negated, method, args⟩) >>=
          fun _ => Pure.pure () := by
  unfold expect callActive
  rw [bind_assoc]

/-- Switch to the page that an answer names. -/
def follow (t : Task Session Json) (pick : Json → Except Failure String) : Task Session Unit := do
  let v ← t
  let p ← Task.ofExcept (pick v)
  modify (switchTo p)

/-- Make the main page the active one. -/
def switchToMain : Task Session Unit := do
  match (← get).mainPage? with
  | none => throw .noActivePage
  | some p => modify (switchTo p)

/-- **The grammar of what keywords do with a session.** -/
inductive Orderly : {α : Type} → Task Session α → Prop where
  | ofExcept {α : Type} (x : Except Failure α) : Orderly (Task.ofExcept x)
  | apart (q : Request) (hq : q.toBrowsers = false) : Orderly (Task.ask q)
  | bind {α β : Type} {t : Task Session α} {f : α → Task Session β} (ht : Orderly t)
      (hf : ∀ a, Orderly (f a)) : Orderly (t >>= f)
  | open_ : Orderly open_
  | close : Orderly close
  | callContext (method : String) (args : List Json) : Orderly (callContext method args)
  | callActive (c : String → BrowserCall) (hc : ∀ p, (c p).target.page? = some p) :
      Orderly (callActive c)
  | followContext (method : String) (args : List Json) (pick : Json → Except Failure String) :
      Orderly (follow (Session.callContext method args) pick)
  | followActive (c : String → BrowserCall) (hc : ∀ p, (c p).target.page? = some p)
      (pick : Json → Except Failure String) : Orderly (follow (Session.callActive c) pick)
  | switchToMain : Orderly switchToMain

namespace Orderly

/-- A result asks nothing. -/
theorem pure (a : α) : Orderly (Pure.pure a : Task Session α) := .ofExcept (.ok a)

/-- A failure asks nothing. -/
theorem throw (e : Failure) : Orderly (MonadExcept.throw e : Task Session α) :=
  .ofExcept (.error e)

/-- Calls on a page, an element or the keyboard are calls like any other. -/
theorem callPage (method : String) (args : List Json) : Orderly (Session.callPage method args) :=
  .callActive (fun p => ⟨.page p, method, args⟩) fun _ => rfl

theorem callElement (selector method : String) (args : List Json) :
    Orderly (Session.callElement selector method args) :=
  .callActive (fun p => ⟨.locator p selector, method, args⟩) fun _ => rfl

theorem callKeyboard (method : String) (args : List Json) :
    Orderly (Session.callKeyboard method args) :=
  .callActive (fun p => ⟨.keyboard p, method, args⟩) fun _ => rfl

/-- An expectation on an element or on the page is orderly. -/
theorem expect (selector : Option String) (negated : Bool) (method : String) (args : List Json) :
    Orderly (Session.expect selector negated method args) := by
  rw [expect_eq]
  exact .bind (.callActive _ fun _ => rfl) fun _ => .pure ()

/-- A picture is a call too; where it is kept does not matter to the browser. -/
theorem screenshot (dir name : String) : Orderly (Session.screenshot dir name) := by
  apply Orderly.bind (.apart (.makeDirectories dir) rfl)
  intro made
  cases made with
  | error e => exact .throw _
  | ok _ => exact .bind (.callPage _ _) fun _ => .pure _

end Orderly

end Session

end SuiteRunner

import Mathlib.Data.List.Nodup
import SuiteRunner.Proofs.Browser.Session

/-!
  SuiteRunner.Proofs.Browser.Lifecycle
  ────────────────────────────────
  **BROWSERS ARE STARTED, USED AND CLOSED, ONE AFTER ANOTHER.**

  What is asked of browsers is a walk through three phases: there is none, one is made but not
  started, or one is open.  The walk is a fact about the questions and their answers alone, so it can
  be told from a log what was open when.  `Lifecycle` says it in terms of the log:

    • `Path.counts` — on every walk the browsers started are those closed and the one that is open,
    • `lifecycle_of_path` — a walk from no browser to none has the lifecycle that is wanted,
    • `Guarded` — the grammar of tasks that reach browsers through the session alone,
    • `Guarded.traces` — such a task walks from the phase of its session to that of the next one.
-/

namespace SuiteRunner

/-! ## §1. Phases. -/

/-- What is known of the browser that was made last. -/
inductive Phase where
  | idle
  | made (b : Nat)
  | running (b : Nat)
  deriving DecidableEq

namespace Phase

/-- **What may be asked in each phase, and where the answer leads.** -/
inductive Step : Phase → Event outside → Phase → Prop where
  | notMade (e : Failure) : Step idle ⟨.createBrowser, .error e⟩ idle
  | made (b : Nat) : Step idle ⟨.createBrowser, .ok b⟩ (made b)
  | notStarted (b : Nat) (e : Failure) : Step (made b) ⟨.launchBrowser b, .error e⟩ idle
  | started (b : Nat) (page : String) : Step (made b) ⟨.launchBrowser b, .ok page⟩ (running b)
  | called (b : Nat) (c : BrowserCall) (a : Except Failure Json) :
      Step (running b) ⟨.callBrowser b c, a⟩ (running b)
  /-- The browser counts as closed whatever it answers. -/
  | closed (b : Nat) (a : Except Failure Unit) : Step (running b) ⟨.closeBrowser b, a⟩ idle
  | apart (p : Phase) (q : Request) (a : q.Answer) (hq : q.toBrowsers = false) : Step p ⟨q, a⟩ p

/-- A walk along the questions of a log. -/
inductive Path : Phase → Log → Phase → Prop where
  | nil (p : Phase) : Path p [] p
  | cons {p m q : Phase} {e : Event outside} {log : Log} (h : Step p e m) (rest : Path m log q) :
      Path p (e :: log) q

variable {p q : Phase} {log first last : Log} {b : Nat}

/-- **A walk along two logs in a row** is a walk along each, by way of the phase between them. -/
theorem path_append_iff :
    Path p (first ++ last) q ↔ ∃ m, Path p first m ∧ Path m last q := by
  -- on the first log, step by step
  induction first generalizing p with
  | nil =>
    constructor
    · intro h
      exact ⟨p, .nil p, h⟩
    · rintro ⟨m, hnil, h⟩
      cases hnil
      exact h
  | cons e first ih =>
    constructor
    · intro h
      cases h with
      | cons hstep rest =>
        obtain ⟨k, hfirst, hlast⟩ := ih.mp rest
        exact ⟨k, .cons hstep hfirst, hlast⟩
    · rintro ⟨k, hfirst, hlast⟩
      cases hfirst with
      | cons hstep rest => exact .cons hstep (ih.mpr ⟨k, rest, hlast⟩)

theorem Path.append {m : Phase} (h : Path p first m) (h' : Path m last q) :
    Path p (first ++ last) q := path_append_iff.mpr ⟨m, h, h'⟩

/-- Questions that are not put to browsers lead nowhere. -/
theorem path_of_apart (h : ∀ e ∈ log, e.1.toBrowsers = false) (p : Phase) : Path p log p := by
  induction log with
  | nil => exact .nil p
  | cons e log ih =>
    obtain ⟨q, a⟩ := e
    exact .cons (.apart p q a (h _ List.mem_cons_self))
      (ih fun e he => h e (List.mem_cons_of_mem _ he))

/-! ## §2. Counting. -/

/-- Whether a browser is started. -/
def startsBrowser (b : Nat) : Event outside → Bool
  | ⟨.launchBrowser b', .ok _⟩ => b' == b
  | _ => false

/-- Whether a browser is closed, whatever it answers. -/
def closesBrowser (b : Nat) : Event outside → Bool
  | ⟨.closeBrowser b', _⟩ => b' == b
  | _ => false

/-- How often a browser was started. -/
def starts (b : Nat) (log : Log) : Nat := log.countP (startsBrowser b)

/-- How often a browser was closed. -/
def closings (b : Nat) (log : Log) : Nat := log.countP (closesBrowser b)

/-- The number of a browser that was made. -/
def madeBrowser? : Event outside → Option Nat
  | ⟨.createBrowser, .ok b⟩ => some b
  | _ => none

/-- The numbers of the browsers that were made, in order. -/
def madeBrowsers (log : Log) : List Nat := log.filterMap madeBrowser?

/-- The browser that is open. -/
def open? : Phase → Option Nat
  | running b => some b
  | _ => none

/-- One for the browser that is meant, nothing for the others. -/
def one (o : Option Nat) (b : Nat) : Nat := if o = some b then 1 else 0

/-- What has nothing to do with browsers counts as neither a start nor a closing. -/
theorem apart_counts {e : Event outside} (h : e.1.toBrowsers = false) (b : Nat) :
    startsBrowser b e = false ∧ closesBrowser b e = false := by
  obtain ⟨q, a⟩ := e
  cases q <;> first | exact ⟨rfl, rfl⟩ | cases h

theorem toNat_eq (x : Bool) : x.toNat = if x then 1 else 0 := by
  cases x with
  | false => rfl
  | true => rfl

/-- One step: what it starts and closes is told by the phases before and after it. -/
theorem Step.counts {e : Event outside} (h : Step p e q) (b : Nat) :
    (startsBrowser b e).toNat + one p.open? b = (closesBrowser b e).toNat + one q.open? b := by
  cases h with
  | notMade e => rfl
  | made b' => rfl
  | notStarted b' e => rfl
  | started b' page => simp [startsBrowser, closesBrowser, open?, one, toNat_eq]
  | called b' c a => rfl
  | closed b' a => simp [startsBrowser, closesBrowser, open?, one, toNat_eq]
  | apart p q a hq =>
    obtain ⟨hstarts, hcloses⟩ := apart_counts (e := ⟨q, a⟩) hq b
    rw [hstarts, hcloses]

/-- Starts are counted event by event. -/
theorem starts_cons (b : Nat) (e : Event outside) (log : Log) :
    starts b (e :: log) = (startsBrowser b e).toNat + starts b log := by
  unfold starts
  rw [List.countP_cons, Nat.add_comm]
  cases startsBrowser b e <;> rfl

/-- Closings are counted event by event. -/
theorem closings_cons (b : Nat) (e : Event outside) (log : Log) :
    closings b (e :: log) = (closesBrowser b e).toNat + closings b log := by
  unfold closings
  rw [List.countP_cons, Nat.add_comm]
  cases closesBrowser b e <;> rfl

/-- **On every walk, what was started was closed, but for the browser that is open.** -/
theorem Path.counts (h : Path p log q) (b : Nat) :
    starts b log + one p.open? b = closings b log + one q.open? b := by
  -- on the walk: each step by itself keeps the balance
  induction h with
  | nil p => rfl
  | cons hstep _ ih =>
    have hone := hstep.counts b
    rw [starts_cons, closings_cons]
    omega

/-- A browser is not started more often than it was made. -/
theorem Step.starts_le {e : Event outside} (h : Step p e q) (b : Nat) :
    (startsBrowser b e).toNat + (if q = .made b then 1 else 0)
      ≤ (madeBrowser? e).toList.count b + (if p = .made b then 1 else 0) := by
  cases h with
  | notMade e => simp [startsBrowser]
  | made b' => simp [startsBrowser, madeBrowser?, List.count_singleton]
  | notStarted b' e => simp [startsBrowser]
  | started b' page => simp [startsBrowser, toNat_eq]
  | called b' c a => simp [startsBrowser]
  | closed b' a => simp [startsBrowser]
  | apart p q a hq =>
    rw [(apart_counts (e := ⟨q, a⟩) hq b).1]
    simp

/-- **A browser is started at most as often as it was made,** and a browser that is made and not yet
started has one start left. -/
theorem Path.starts_le (h : Path p log q) (b : Nat) :
    starts b log + (if q = .made b then 1 else 0)
      ≤ (madeBrowsers log).count b + (if p = .made b then 1 else 0) := by
  induction h with
  | nil p => exact Nat.le_refl _
  | @cons p m q e log hstep _ ih =>
    have hone := hstep.starts_le b
    have hmade : (madeBrowsers (e :: log)).count b
        = (madeBrowser? e).toList.count b + (madeBrowsers log).count b := by
      unfold madeBrowsers
      rw [List.filterMap_cons]
      cases madeBrowser? e with
      | none => simp
      | some b' => simp [List.count_cons, Nat.add_comm]
    rw [starts_cons, hmade]
    omega

end Phase

open Phase

/-! ## §3. The lifecycle of browsers in a log. -/

/-- **What is asked of browsers from the first question to the last.**  Browsers go by the numbers
they were made with; where these are told apart, so are the browsers. -/
structure Lifecycle (log : Log) : Prop where
  /-- At any time at most one of the browsers that were started has not been closed. -/
  one_open : ∀ before after, log = before ++ after →
    ∃ o : Option Nat, ∀ b, starts b before = closings b before + one o b
  /-- A call goes to a browser that was started and has not been closed since. -/
  call_open : ∀ before b c a after, log = before ++ ⟨.callBrowser b c, a⟩ :: after →
    starts b before = closings b before + 1
  /-- Only such a browser is closed. -/
  close_open : ∀ before b a after, log = before ++ ⟨.closeBrowser b, a⟩ :: after →
    starts b before = closings b before + 1
  /-- In the end every browser was closed as often as it was started. -/
  all_closed : ∀ b, starts b log = closings b log
  /-- If no number was given twice, each of them was started and closed once. -/
  once : (madeBrowsers log).Nodup → ∀ b page, ⟨.launchBrowser b, .ok page⟩ ∈ log →
    starts b log = 1 ∧ closings b log = 1
  /-- In that case each call comes after the start of its browser and before the closing. -/
  between : (madeBrowsers log).Nodup → ∀ before b c a after,
    log = before ++ ⟨.callBrowser b c, a⟩ :: after → starts b before = 1 ∧ closings b before = 0

variable {log : Log}

/-- On a walk from no browser, what is asked of an open browser finds it open. -/
theorem starts_of_running {before after : Log} {e : Event outside} {b : Nat} {q : Phase}
    (h : Path .idle (before ++ e :: after) q) (hstep : ∀ {p m}, Phase.Step p e m → p = .running b) :
    starts b before = closings b before + 1 := by
  obtain ⟨p, hbefore, hrest⟩ := path_append_iff.mp h
  cases hrest with
  | cons he _ =>
    rw [hstep he] at hbefore
    have hcounts := hbefore.counts b
    rw [show one (open? (.running b)) b = 1 from if_pos rfl] at hcounts
    exact hcounts

/-- **A walk from no browser to none has the lifecycle that is wanted.** -/
theorem lifecycle_of_path (h : Path .idle log .idle) : Lifecycle log := by
  -- a call is made in the phase of a running browser
  have hcalled {before : Log} {b : Nat} {c : BrowserCall} {a : Except Failure Json} {after : Log}
      (hlog : log = before ++ ⟨.callBrowser b c, a⟩ :: after) :
      starts b before = closings b before + 1 := by
    rw [hlog] at h
    apply starts_of_running h
    intro p m hstep
    cases hstep with
    | called => rfl
    | apart _ _ _ hq => cases hq
  -- numbers that are given once are started once
  have hmost (hnodup : (madeBrowsers log).Nodup) (b : Nat) : starts b log ≤ 1 := by
    have hle := h.starts_le b
    have hcount := List.nodup_iff_count_le_one.mp hnodup b
    simp only [reduceCtorEq, if_false, Nat.add_zero] at hle
    exact Nat.le_trans hle hcount
  refine
    { one_open := ?_
      call_open := fun _ _ _ _ _ hlog => hcalled hlog
      close_open := ?_
      all_closed := fun b => h.counts b
      once := ?_
      between := ?_ }
  · rintro before after rfl
    obtain ⟨p, hbefore, -⟩ := path_append_iff.mp h
    exact ⟨p.open?, fun b => hbefore.counts b⟩
  · rintro before b a after rfl
    apply starts_of_running h
    intro p m hstep
    cases hstep with
    | closed => rfl
    | apart _ _ _ hq => cases hq
  · -- what was started once is closed as often
    intro hnodup b page hmem
    have hpos : 0 < starts b log :=
      List.countP_pos_iff.mpr ⟨_, hmem, show (b == b) = true from beq_self_eq_true b⟩
    have hle := hmost hnodup b
    have hall : starts b log = closings b log := h.counts b
    omega
  · rintro hnodup before b c a after hlog
    have hopen := hcalled hlog
    have hle := hmost hnodup b
    have hpart : starts b before ≤ starts b log := by
      rw [hlog]
      unfold starts
      rw [List.countP_append]
      exact Nat.le_add_right _ _
    omega

/-! ## §4. Tasks that reach browsers through the session. -/

namespace Session

variable {α β : Type} {s s' : Session}

/-- The phase of a session: a browser that is held is open. -/
def phase (s : Session) : Phase :=
  match s.browser with
  | none => .idle
  | some b => .running b

/-- A session that is not open is idle. -/
theorem phase_of_isOpen_eq_false (h : s.isOpen = false) : s.phase = .idle := by
  unfold phase
  rw [Option.isSome_eq_false_iff.mp h |> Option.isNone_iff_eq_none.mp]

/-- **The grammar of tasks that reach browsers through the session alone.**  Beside the three ways to
reach one there is anything that asks nothing of browsers and keeps the one that is held. -/
inductive Guarded : {α : Type} → Task Session α → Prop where
  | apart {α : Type} {t : Task Session α}
      (h : ∀ {s log r s'}, t.Runs s log r s' →
        (∀ e ∈ log, e.1.toBrowsers = false) ∧ s'.browser = s.browser) : Guarded t
  | bind {α β : Type} {t : Task Session α} {f : α → Task Session β} (ht : Guarded t)
      (hf : ∀ a, Guarded (f a)) : Guarded (t >>= f)
  | open_ : Guarded open_
  | close : Guarded close
  | call (c : BrowserCall) : Guarded (call c)

/-- **Such a task walks from the phase of its session to that of the next one.** -/
theorem Guarded.traces {t : Task Session α} (h : Guarded t) :
    ∀ {s log r s'}, t.Runs s log r s' → Path s.phase log s'.phase := by
  -- on the grammar: opening, closing and calling are the steps of phases
  induction h with
  | apart h =>
    intro s log r s' hruns
    obtain ⟨hlog, hbrowser⟩ := h hruns
    rw [show s'.phase = s.phase by unfold phase; rw [hbrowser]]
    exact path_of_apart hlog s.phase
  | bind _ _ iht ihf =>
    intro s log r s' hruns
    obtain ⟨e, -, hfails⟩ | ⟨first, last, a, m, rfl, hfirst, hlast⟩ :=
      (Task.runs_bind_iff _ _).mp hruns
    · exact iht hfails
    · exact (iht hfirst).append (ihf a hlast)
  | open_ =>
    intro s log r s' hruns
    cases opens_of_runs hruns with
    | already => exact .nil _
    | notMade hclosed e =>
      rw [phase_of_isOpen_eq_false hclosed]
      exact .cons (.notMade e) (.nil _)
    | notStarted hclosed b e =>
      rw [phase_of_isOpen_eq_false hclosed]
      exact .cons (.made b) (.cons (.notStarted b e) (.nil _))
    | started hclosed b page =>
      rw [phase_of_isOpen_eq_false hclosed]
      exact .cons (.made b) (.cons (.started b page) (.nil _))
  | close =>
    intro s log r s' hruns
    obtain ⟨hcloses, rfl⟩ := closes_of_runs hruns
    cases hcloses with
    | nothing hnone =>
      rw [show s.phase = .idle by unfold phase; rw [hnone]]
      exact .nil _
    | asked b hb =>
      rw [show s.phase = .running b by unfold phase; rw [hb]]
      exact .cons (.closed b _) (.nil _)
  | call c =>
    intro s log r s' hruns
    obtain ⟨hcalls, rfl⟩ := runs_call_iff.mp hruns
    cases hcalls with
    | nowhere => exact .nil _
    | asked b hb =>
      rw [show s'.phase = .running b by unfold phase; rw [hb]]
      exact .cons (.called b c _) (.nil _)

namespace Guarded

/-- A result that stands fixed asks nothing. -/
theorem ofExcept (x : Except Failure α) : Guarded (Task.ofExcept x) := by
  apply Guarded.apart
  intro s log r s' hruns
  obtain ⟨rfl, -, rfl⟩ := Task.runs_ofExcept_iff.mp hruns
  exact ⟨fun e he => (by cases he), rfl⟩

/-- A question to anything but a browser may be asked in every phase. -/
theorem ask {q : Request} (hq : q.toBrowsers = false) : Guarded (Task.ask q) := by
  apply Guarded.apart
  intro s log r s' hruns
  obtain ⟨a, rfl, -, rfl⟩ := Task.runs_ask_iff.mp hruns
  exact ⟨fun e he => List.mem_singleton.mp he ▸ hq, rfl⟩

/-- To look at the session asks nothing. -/
theorem look : Guarded (get : Task Session Session) := by
  apply Guarded.apart
  intro s log r s' hruns
  obtain ⟨rfl, -, rfl⟩ := Task.runs_get_iff.mp hruns
  exact ⟨fun e he => (by cases he), rfl⟩

/-- Moving the cursor keeps the browser. -/
theorem move {f : Session → Session} (hf : ∀ s, (f s).browser = s.browser) :
    Guarded (modify f) := by
  apply Guarded.apart
  intro s log r s' hruns
  obtain ⟨rfl, -, rfl⟩ := Task.runs_modify_iff.mp hruns
  exact ⟨fun e he => (by cases he), hf s⟩

/-- The page of a session is that of a running browser, which is started if there is none. -/
theorem page : Guarded Session.page := by
  apply Guarded.bind .open_
  intro _
  apply Guarded.bind .look
  intro s
  cases s.active with
  | none => exact .ofExcept (.error .noActivePage)
  | some p => exact .ofExcept (.ok p)

/-- A call on the context comes after the browser was opened. -/
theorem callContext (method : String) (args : List Json) :
    Guarded (Session.callContext method args) := .bind .open_ fun _ => .call _

theorem callActive (c : String → BrowserCall) : Guarded (Session.callActive c) :=
  .bind .page fun _ => .call _

/-- To follow a call to another page is that call and a change of the cursor. -/
theorem follow {t : Task Session Json} (ht : Guarded t) (pick : Json → Except Failure String) :
    Guarded (Session.follow t pick) :=
  .bind ht fun v => .bind (.ofExcept (pick v)) fun _ => .move fun _ => rfl

theorem switchToMain : Guarded Session.switchToMain := by
  apply Guarded.bind .look
  intro s
  cases s.mainPage? with
  | none => exact .ofExcept (.error .noActivePage)
  | some p => exact .move fun _ => rfl

end Guarded

/-- Orderly tasks reach browsers through the session alone. -/
theorem Orderly.guarded {t : Task Session α} (h : Orderly t) : Guarded t := by
  induction h with
  | ofExcept x => exact .ofExcept x
  | apart q hq => exact .ask hq
  | bind _ _ iht ihf => exact .bind iht ihf
  | open_ => exact .open_
  | close => exact .close
  | callContext method args => exact .callContext method args
  | callActive c _ => exact .callActive c
  | followContext method args pick => exact .follow (.callContext method args) pick
  | followActive c _ pick => exact .follow (.callActive c) pick
  | switchToMain => exact .switchToMain

end Session

end SuiteRunner

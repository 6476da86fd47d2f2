import SuiteRunner.Proofs.Browser.Cursor
import SuiteRunner.Proofs.Ui.Actions

/-!
  SuiteRunner.Proofs.Ui.Cursor
  ────────────────────────────────
  **STEPS ACT ON THE ACTIVE PAGE.**

  Keywords without custom code are run on a session one after the other, from a closed one on, and
  each of them may fail anywhere.  `CursorAccount` says of one run of a keyword where the cursor is
  afterwards and which pages its calls name:

    • `keyword_account` — it holds from every sound session on,
    • `Reached.sound` — every session that is reached is sound,
    • `cursor_of_reached` — so it holds in every session that is reached.
-/

namespace SuiteRunner

open Session

/-! ## §1. Closing a page at a position. -/

namespace Action

variable {s : Session}

/-- Whether a call that is addressed to a page names the one to close. -/
def AtPosition (position : Option Nat) (s : Session) (c : BrowserCall) : Prop :=
  ∀ p, c.target.page? = some p → pageToClose s position = some p

theorem mem_pages_of_pageToClose (hs : s.Sound) {position : Option Nat} {p : String}
    (h : pageToClose s position = some p) : p ∈ s.pages := by
  cases position with
  | none => exact hs.active_mem p h
  | some i => exact List.mem_of_getElem? h

/-- The ways in which closing a page can go. -/
theorem runs_closePageAt {position : Option Nat} {log : Log} {r : Except Failure Unit}
    {s' : Session} (h : Task.Runs (closePageAt position) s log r s') :
    (∃ e, r = .error e ∧ s' = s) ∨
      ∃ p b v, r = .ok () ∧ log = [⟨.callBrowser b ⟨.page p, "close", []⟩, .ok v⟩] ∧
        s' = s.forget p := by
  have hlook := Task.runs_get_bind_iff.mp h
  cases hp : pageToClose s position with
  | none =>
    rw [hp] at hlook
    obtain ⟨-, hr, hs⟩ := Task.runs_throw_iff.mp hlook
    exact .inl ⟨_, hr, hs⟩
  | some p =>
    rw [hp] at hlook
    obtain ⟨e, hr, hfails⟩ | ⟨first, last, v, m, rfl, hcall, hforget⟩ :=
      (Task.runs_bind_iff _ _).mp hlook
    · exact .inl ⟨e, hr, (runs_call_iff.mp hfails).2⟩
    obtain ⟨hcalls, rfl⟩ := runs_call_iff.mp hcall
    obtain ⟨rfl, rfl, rfl⟩ := Task.runs_modify_iff.mp hforget
    cases hcalls with
    | asked b => exact .inr ⟨p, b, v, rfl, rfl, rfl⟩

/-- Closing a page calls nothing but the page to close, and keeps the cursor on a page. -/
theorem careful_closePageAt (hs : s.Sound) (position : Option Nat) :
    Careful (AtPosition position) (closePageAt position) s := by
  apply careful_get_bind
  cases hp : pageToClose s position with
  | none => exact careful_ofExcept hs (.error .noActivePage)
  | some p =>
    have hnames : AtPosition position s ⟨.page p, "close", []⟩ := by
      intro q hq
      cases hq
      exact hp
    apply (careful_call hs hnames).bind
    intro first v m _ hm
    exact careful_modify (hm.forget p)

/-! ## §2. Actions. -/

/-- The position that an action closes, if it closes one. -/
def position? : Action → Option Nat
  | .closePage position => position
  | _ => none

/-- **Every action keeps the cursor on a page;** its calls name the active page, or the page at the
position that is to be closed. -/
theorem careful_performOnSession (hs : s.Sound) (setup : UiSetup) (a : Action) :
    Careful (AtPosition a.position?) (a.performOnSession setup) s := by
  by_cases hclose : ∃ position, a = .closePage position
  · obtain ⟨position, rfl⟩ := hclose
    apply (careful_closePageAt hs position).bind
    intro _ _ m _ hm
    exact careful_ofExcept hm (.ok none)
  · have hother : ∀ position, a ≠ .closePage position := fun position h => hclose ⟨position, h⟩
    have hnone : a.position? = none := by
      cases a <;> first | rfl | exact absurd rfl (hother _)
    rw [hnone]
    exact (orderly_performOnSession setup a hother).careful hs

end Action

/-! ## §3. Keywords. -/

namespace Ui

variable {setup : UiSetup} {base : String} {k : Keyword} {step : Step} {g g' : Stage} {log : Log}
  {r : Except Failure (Option Json)}

/-- A step by its keyword: its action is made and done. -/
def keyword (setup : UiSetup) (base : String) (k : Keyword) (step : Step) :
    Task Stage (Option Json) := do
  let action ← Task.ofExcept (Action.ofStep base k step)
  action.perform setup step

/-- The position that a step asks to close; other keywords have none, whatever their value. -/
def positionToClose (k : Keyword) (step : Step) : Option Nat :=
  if Action.closesPage k then step.valueNumber?.map Step.count else none

/-- The action of a step closes the page that the step asks to close. -/
theorem position_of_ofStep {a : Action} (h : Action.ofStep base k step = .ok a) :
    a.position? = positionToClose k step := by
  have hfits := Action.fits_of_ofStep h
  unfold positionToClose
  by_cases hk : Action.closesPage k = true
  · rw [if_pos hk]
    obtain rfl | rfl := of_decide_eq_true hk
    · cases h
      rfl
    · cases h
      rfl
  · rw [if_neg hk]
    cases a
    case closePage position => exact absurd hfits.1 hk
    all_goals rfl

/-- **The account of one run of a keyword,** from `g` to `g'`. -/
structure CursorAccount (setup : UiSetup) (base : String) (k : Keyword) (step : Step) (g : Stage)
    (log : Log) (r : Except Failure (Option Json)) (g' : Stage) : Prop where
  /-- Afterwards the cursor is on a known page. -/
  sound : g'.session.Sound
  /-- A call that is addressed to a page is made while that page is known; it is the active one,
  or the one at the position that is to be closed. -/
  calls : ∀ before b c a after, log = before ++ ⟨.callBrowser b c, a⟩ :: after →
    ∃ m, (keyword setup base k step).MadeIn g before b c m ∧ m.session.Sound ∧
      ∀ p, c.target.page? = some p →
        p ∈ m.session.pages ∧ Action.pageToClose m.session (positionToClose k step) = some p
  /-- A refused call is the last one, and the session stays as it was when the call was made. -/
  refused : ∀ before b c e after, log = before ++ ⟨.callBrowser b c, .error e⟩ :: after →
    after = [] ∧ r = .error e ∧ (keyword setup base k step).MadeIn g before b c g'
  /-- If a page is not closed, the session stays as it was at the beginning. -/
  notClosed : Action.closesPage k = true → ∀ e, r = .error e → g' = g

/-- A keyword without custom code is one action on the session. -/
theorem keyword_eq_onSession {a : Action} (ha : Action.ofStep base k step = .ok a)
    (hk : Action.isCustom k = false) :
    keyword setup base k step = Stage.onSession (a.performOnSession setup) := by
  unfold keyword
  rw [ha]
  exact Action.perform_eq_onSession ha hk setup

/-- A call on the session of a stage is made in the stage with that session. -/
theorem madeIn_onSession {α : Type} {t : Task Session α} {before : Log} {b : Nat} {c : BrowserCall}
    {m : Session} (h : t.MadeIn g.session before b c m) :
    (Stage.onSession t).MadeIn g before b c { g with session := m } :=
  fun e => Task.runs_focus_iff.mpr ⟨m, h e, rfl⟩

/-- A step whose action cannot be made does nothing. -/
theorem account_of_no_action {e : Failure} (hg : g.session.Sound)
    (ha : Action.ofStep base k step = .error e) (h : (keyword setup base k step).Runs g log r g') :
    CursorAccount setup base k step g log r g' := by
  obtain ⟨_, -, rfl, -, rfl⟩ | ⟨a, hok, -⟩ := Task.runs_ofExcept_bind_iff.mp h
  · exact
      { sound := hg
        calls := fun _ _ _ _ _ hlog =>
          absurd hlog.symm (List.append_ne_nil_of_right_ne_nil _ (List.cons_ne_nil _ _))
        refused := fun _ _ _ _ _ hlog =>
          absurd hlog.symm (List.append_ne_nil_of_right_ne_nil _ (List.cons_ne_nil _ _))
        notClosed := fun _ _ _ => rfl }
  · rw [ha] at hok
    cases hok

/-- **One keyword:** from a sound session on, whatever the browser answers. -/
theorem keyword_account (hg : g.session.Sound) (hk : Action.isCustom k = false)
    (h : (keyword setup base k step).Runs g log r g') :
    CursorAccount setup base k step g log r g' := by
  cases ha : Action.ofStep base k step with
  | error e => exact account_of_no_action hg ha h
  | ok a =>
    have heq : keyword setup base k step = _ := keyword_eq_onSession ha hk
    have hposition := position_of_ofStep ha
    have hcareful := Action.careful_performOnSession hg setup a
    rw [heq] at h
    -- what the keyword does is done on the session alone
    obtain ⟨s', hruns, rfl⟩ := Task.runs_focus_iff.mp h
    refine
      { sound := hcareful.sound hruns
        calls := ?_
        refused := ?_
        notClosed := ?_ }
    · -- each call is made in a sound session, and names its active page or the one to close
      rintro before b c answer after rfl
      obtain ⟨m, hm, hmade, hnamed⟩ := hcareful.calls hruns
      refine ⟨{ g with session := m }, heq ▸ madeIn_onSession hmade, hm, ?_⟩
      intro p hp
      have hpage := hnamed p hp
      rw [hposition] at hpage
      exact ⟨Action.mem_pages_of_pageToClose hm hpage, hpage⟩
    · rintro before b c e after rfl
      obtain ⟨m, -, hmade, -⟩ := hcareful.calls hruns
      obtain ⟨hafter, hr, rfl⟩ := hmade.of_refused hruns
      exact ⟨hafter, hr, heq ▸ madeIn_onSession hmade⟩
    · -- a close that is refused forgets no page
      rintro hclose e rfl
      obtain rfl : a = .closePage (positionToClose k step) := by
        unfold positionToClose
        rw [if_pos hclose]
        obtain rfl | rfl := of_decide_eq_true hclose
        · cases ha
          rfl
        · cases ha
          rfl
      obtain ⟨e', -, hfails⟩ | ⟨_, _, _, _, -, -, hend⟩ := (Task.runs_bind_iff _ _).mp hruns
      · obtain ⟨_, -, rfl⟩ | ⟨_, _, _, hok, -⟩ := Action.runs_closePageAt hfails
        · rfl
        · cases hok
      · cases (Task.runs_pure_iff.mp hend).2.1

/-! ## §4. Sequences of keywords. -/

/-- **The sessions that keywords without custom code reach** from a closed one, whatever they do and
whatever they are answered. -/
inductive Reached : Session → Prop where
  | closed : Reached .closed
  | keyword {setup : UiSetup} {base : String} {k : Keyword} {step : Step} {g g' : Stage} {log : Log}
      {r : Except Failure (Option Json)} (hg : Reached g.session)
      (hk : Action.isCustom k = false) (h : (keyword setup base k step).Runs g log r g') :
      Reached g'.session

theorem Reached.sound {s : Session} (h : Reached s) : s.Sound := by
  -- on the keywords that were run
  induction h with
  | closed => exact sound_closed
  | keyword _ hk h ih => exact (keyword_account ih hk h).sound

/-- **The cursor of every session that is reached is on a page,** and what the next keyword calls is
that page, or the page at the position that it is to close. -/
theorem cursor_of_reached (hg : Reached g.session) :
    g.session.Sound ∧
      ∀ setup base k step log r g', Action.isCustom k = false →
        (keyword setup base k step).Runs g log r g' →
          CursorAccount setup base k step g log r g' :=
  ⟨hg.sound, fun _ _ _ _ _ _ _ hk h => keyword_account hg.sound hk h⟩

/-- A session with two pages; the second one was opened by a step and is active. -/
def twoPages : Session := ⟨some 0, ["first", "second"], some "second"⟩

/-- A step that closes the page at the first position. -/
def closeFirst : Step := { value := some (Json.ofNat 0) }

theorem reached_twoPages : Reached twoPages := by
  have h : (keyword {} "" .newPage {}).Runs ⟨.closed, default⟩
      [⟨.createBrowser, .ok 0⟩, ⟨.launchBrowser 0, .ok "first"⟩,
        ⟨.callBrowser 0 ⟨.context, "newPage", []⟩, .ok (.str "second")⟩]
      (.ok none) ⟨twoPages, default⟩ := .ask _ (.ask _ (.ask _ (.done _)))
  exact .keyword .closed rfl h

/-- The first of two pages is not the active one; the browser refuses to close it. -/
theorem cursor_of_reached_twoPages :
    Reached twoPages ∧ positionToClose .closeTab closeFirst = some 0 ∧
      CursorAccount {} "" .closeTab closeFirst ⟨twoPages, default⟩
        [⟨.callBrowser 0 ⟨.page "first", "close", []⟩, .error (.driver "busy")⟩]
        (.error (.driver "busy")) ⟨twoPages, default⟩ := by
  have hzero : closeFirst.valueNumber?.map Step.count = some 0 := by decide +kernel
  have hposition : positionToClose .closeTab closeFirst = some 0 := hzero
  have haction : Action.ofStep "" .closeTab closeFirst = .ok (.closePage (some 0)) := by
    rw [← hzero]
    rfl
  have h : (keyword {} "" .closeTab closeFirst).Runs ⟨twoPages, default⟩
      [⟨.callBrowser 0 ⟨.page "first", "close", []⟩, .error (.driver "busy")⟩]
      (.error (.driver "busy")) ⟨twoPages, default⟩ := by
    rw [keyword_eq_onSession haction rfl]
    exact .ask _ (.done _)
  have hreached : Reached (Stage.session ⟨twoPages, default⟩) := reached_twoPages
  exact ⟨reached_twoPages, hposition, (cursor_of_reached hreached).2 _ _ _ _ _ _ _ rfl h⟩

end Ui

end SuiteRunner

import Mathlib.Data.List.Nodup
import SuiteRunner.Proofs.Browser.Session

/-!
  SuiteRunner.Proofs.Browser.Cursor
  ────────────────────────────────
  **THE ACTIVE PAGE IS A KNOWN PAGE, AND CALLS GO TO IT.**

  A session is sound if it knows no page twice, has an active page exactly if it knows one, and the
  active page is one that it knows.  Tasks are careful if they keep sessions sound and make every
  call in a sound session that names the page of the call:

    • `Sound.switchTo`, `Sound.forget`, `Opens.sound` — the moves of the cursor keep it on a page,
    • `MadeIn` — the session in which a call is made is the one that a refusal of it leaves,
    • `Careful.bind` — tasks in a row are careful if each of them is,
    • `Orderly.careful` — all orderly tasks are careful, and call nothing but the active page.
-/

namespace SuiteRunner

/-! ## §1. Sound sessions. -/

namespace Session

variable {s s' : Session} {log : Log}

/-- **A session whose cursor is on a page that it knows.** -/
structure Sound (s : Session) : Prop where
  nodup : s.pages.Nodup
  active_eq_none_iff : s.active = none ↔ s.pages = []
  active_mem : ∀ p, s.active = some p → p ∈ s.pages
  pages_of_closed : s.browser = none → s.pages = []

/-- A closed session is sound: it has no pages and no cursor. -/
theorem sound_closed : Sound closed where
  nodup := List.nodup_nil
  active_eq_none_iff := ⟨fun _ => rfl, fun _ => rfl⟩
  active_mem := fun _ h => by cases h
  pages_of_closed := fun _ => rfl

/-- The pages after a switch. -/
theorem mem_pages_switchTo {p q : String} : q ∈ (s.switchTo p).pages ↔ q ∈ s.pages ∨ q = p := by
  unfold switchTo
  by_cases hknown : s.pages.contains p = true
  · simp only [hknown, if_true]
    have hp : p ∈ s.pages := List.contains_iff_mem.mp hknown
    constructor
    · exact .inl
    · rintro (hq | rfl)
      · exact hq
      · exact hp
  · simp only [hknown, Bool.false_eq_true, if_false, List.mem_append, List.mem_singleton]

/-- Switching in a session with a browser keeps the cursor on a page. -/
theorem Sound.switchTo (h : s.Sound) (p : String) (hopen : s.isOpen = true) :
    (s.switchTo p).Sound where
  nodup := by
    unfold Session.switchTo
    by_cases hknown : s.pages.contains p = true
    · simp only [hknown, if_true]
      exact h.nodup
    · -- a page that is new goes to the end
      have hp : p ∉ s.pages := fun hmem => hknown (List.contains_iff_mem.mpr hmem)
      simp only [hknown, Bool.false_eq_true, if_false]
      exact List.nodup_append.mpr ⟨h.nodup, List.nodup_singleton p, by
        rintro a ha b hb rfl
        exact hp (List.mem_singleton.mp hb ▸ ha)⟩
  active_eq_none_iff := by
    have hmem : p ∈ (s.switchTo p).pages := mem_pages_switchTo.mpr (.inr rfl)
    constructor
    · intro hnone
      cases hnone
    · intro hnil
      rw [hnil] at hmem
      cases hmem
  active_mem := by
    intro q hq
    cases hq
    exact mem_pages_switchTo.mpr (.inr rfl)
  pages_of_closed := by
    intro hnone
    have hsome : s.browser.isSome = true := hopen
    rw [show s.browser = none from hnone] at hsome
    cases hsome

/-- A page that is forgotten is known no more, and the others are. -/
theorem mem_pages_forget {p q : String} : q ∈ (s.forget p).pages ↔ q ∈ s.pages ∧ q ≠ p := by
  show q ∈ s.pages.filter _ ↔ _
  rw [List.mem_filter, bne_iff_ne]

/-- When a page is forgotten the cursor stays, or falls back to the main page. -/
theorem active_forget (s : Session) (p : String) :
    (s.forget p).active = if s.active = some p then (s.forget p).pages.head? else s.active := rfl

/-- Forgetting a page keeps the cursor on a page. -/
theorem Sound.forget (h : s.Sound) (p : String) : (s.forget p).Sound where
  nodup := h.nodup.filter _
  active_eq_none_iff := by
    rw [active_forget]
    by_cases hp : s.active = some p
    · rw [if_pos hp]
      exact List.head?_eq_none_iff
    · rw [if_neg hp]
      constructor
      · intro hnone
        apply List.eq_nil_iff_forall_not_mem.mpr
        intro q hq
        have hmem : q ∈ s.pages := (mem_pages_forget.mp hq).1
        rw [h.active_eq_none_iff.mp hnone] at hmem
        cases hmem
      · intro hnil
        -- an active page other than the one that goes would still be known
        cases hactive : s.active with
        | none => rfl
        | some q =>
          have hq : q ≠ p := fun heq => hp (heq ▸ hactive)
          have hmem := mem_pages_forget.mpr ⟨h.active_mem q hactive, hq⟩
          rw [hnil] at hmem
          cases hmem
  active_mem := by
    intro q hq
    rw [active_forget] at hq
    by_cases hp : s.active = some p
    · rw [if_pos hp] at hq
      exact List.mem_of_mem_head? hq
    · rw [if_neg hp] at hq
      have hne : q ≠ p := fun heq => hp (heq ▸ hq)
      exact mem_pages_forget.mpr ⟨h.active_mem q hq, hne⟩
  pages_of_closed := by
    intro hnone
    apply List.eq_nil_iff_forall_not_mem.mpr
    intro q hq
    have hmem : q ∈ s.pages := (mem_pages_forget.mp hq).1
    rw [h.pages_of_closed hnone] at hmem
    cases hmem

/-- A browser starts with its first page active. -/
theorem Opens.sound {r : Except Failure Unit} (h : Opens s log r s') (hs : s.Sound) :
    s'.Sound := by
  cases h with
  | already => exact hs
  | notMade => exact hs
  | notStarted => exact hs
  | started _ b page =>
    exact ⟨List.nodup_singleton page, ⟨fun h => (by cases h), fun h => (by cases h)⟩,
      fun p hp => (by cases hp; exact List.mem_singleton.mpr rfl), fun h => (by cases h)⟩

/-- Starting a browser makes no calls. -/
theorem Opens.no_call {r : Except Failure Unit} (h : Opens s log r s') (b : Nat)
    (c : BrowserCall) (a : Except Failure Json) : (⟨.callBrowser b c, a⟩ : Event outside) ∉ log := by
  cases h <;> simp

end Session

/-! ## §2. The session in which a call is made. -/

namespace Task

variable {σ α β : Type} {s m : σ} {log before : Log} {b : Nat} {c : BrowserCall}

/-- **The state in which a call is made:** if the call is refused, it is the last one that the task
makes, and the task leaves the state in which it made it. -/
def MadeIn (t : Task σ α) (s : σ) (before : Log) (b : Nat) (c : BrowserCall) (m : σ) : Prop :=
  ∀ e, t.Runs s (before ++ [⟨.callBrowser b c, .error e⟩]) (.error e) m

/-- What is done after a refused call is not done, so its state is the last one. -/
theorem MadeIn.bind {t : Task σ α} (h : t.MadeIn s before b c m) (f : α → Task σ β) :
    (t >>= f).MadeIn s before b c m := by
  intro e
  exact (runs_bind_iff t f).mpr (.inl ⟨e, rfl, h e⟩)

/-- A call in the second of two tasks is made in the state where the first ended, or later. -/
theorem MadeIn.of_rest {t : Task σ α} {f : α → Task σ β} {a : α} {s₁ : σ} {first : Log}
    (ht : t.Runs s first (.ok a) s₁) (h : (f a).MadeIn s₁ before b c m) :
    (t >>= f).MadeIn s (first ++ before) b c m := by
  intro e
  exact (runs_bind_iff t f).mpr (.inr ⟨first, _, a, s₁, List.append_assoc _ _ _, ht, h e⟩)

/-- After a call is refused nothing more is asked, and the state is the one it was made in. -/
theorem MadeIn.of_refused {t : Task σ α} (h : t.MadeIn s before b c m) {e : Failure} {rest : Log}
    {r : Except Failure α} {s' : σ}
    (hruns : t.Runs s (before ++ ⟨.callBrowser b c, .error e⟩ :: rest) r s') :
    rest = [] ∧ r = .error e ∧ s' = m := by
  have hlonger : t.Runs s (before ++ [⟨.callBrowser b c, .error e⟩] ++ rest) r s' := by
    rw [List.append_assoc]
    exact hruns
  obtain ⟨hrest, hend⟩ := Program.Runs.ended (h e) hlonger
  obtain ⟨hr, hs⟩ := Prod.mk.inj hend
  exact ⟨hrest, hr, hs⟩

end Task

/-! ## §3. Careful tasks. -/

namespace Session

variable {α β : Type} {s m : Session} {log : Log} {named : Session → BrowserCall → Prop}

/-- Whether a call that is addressed to a page names the active one. -/
def AtActive (s : Session) (c : BrowserCall) : Prop :=
  ∀ p, c.target.page? = some p → s.active = some p

/-- **A task that takes care of pages,** from one session on: it leaves sound sessions only, and
makes its calls in sound sessions that allow them. -/
structure Careful (named : Session → BrowserCall → Prop) (t : Task Session α) (s : Session) :
    Prop where
  sound : ∀ {log r s'}, t.Runs s log r s' → s'.Sound
  calls : ∀ {before after b c a r s'},
    t.Runs s (before ++ ⟨.callBrowser b c, a⟩ :: after) r s' →
      ∃ m, m.Sound ∧ t.MadeIn s before b c m ∧ named m c

/-- A task that makes no calls only has to keep sessions sound. -/
theorem Careful.of_no_call {t : Task Session α}
    (h : ∀ {log r s'}, t.Runs s log r s' →
      s'.Sound ∧ ∀ b c a, (⟨.callBrowser b c, a⟩ : Event outside) ∉ log) :
    Careful named t s where
  sound hruns := (h hruns).1
  calls hruns := absurd (List.mem_append_right _ List.mem_cons_self) ((h hruns).2 _ _ _)

theorem careful_ofExcept (hs : s.Sound) (x : Except Failure α) :
    Careful named (Task.ofExcept x) s := by
  apply Careful.of_no_call
  intro log r s' hruns
  obtain ⟨rfl, -, rfl⟩ := Task.runs_ofExcept_iff.mp hruns
  exact ⟨hs, fun _ _ _ => List.not_mem_nil⟩

/-- A look at the session, and what follows it. -/
theorem careful_get_bind {f : Session → Task Session α} (h : Careful named (f s) s) :
    Careful named (get >>= f) s where
  sound hruns := h.sound (Task.runs_get_bind_iff.mp hruns)
  calls hruns := by
    obtain ⟨m, hm, hmade, hnamed⟩ := h.calls (Task.runs_get_bind_iff.mp hruns)
    exact ⟨m, hm, fun e => Task.runs_get_bind_iff.mpr (hmade e), hnamed⟩

/-- A change of the session has to lead to a sound one. -/
theorem careful_modify {f : Session → Session} (hs : (f s).Sound) :
    Careful named (modify f) s := by
  apply Careful.of_no_call
  intro log r s' hruns
  obtain ⟨rfl, -, rfl⟩ := Task.runs_modify_iff.mp hruns
  exact ⟨hs, fun _ _ _ => List.not_mem_nil⟩

theorem careful_apart (hs : s.Sound) {q : Request} (hq : q.toBrowsers = false) :
    Careful named (Task.ask q) s := by
  apply Careful.of_no_call
  intro log r s' hruns
  obtain ⟨a, rfl, -, rfl⟩ := Task.runs_ask_iff.mp hruns
  refine ⟨hs, fun b c a' hmem => ?_⟩
  cases List.mem_singleton.mp hmem
  cases hq

/-- Opening a session makes no calls, and its first page is the active one. -/
theorem careful_open (hs : s.Sound) : Careful named open_ s := by
  apply Careful.of_no_call
  intro log r s' hruns
  have hopens := opens_of_runs hruns
  exact ⟨hopens.sound hs, hopens.no_call⟩

/-- A session that is closed is sound, whatever it was before. -/
theorem careful_close : Careful named close s := by
  apply Careful.of_no_call
  intro log r s' hruns
  obtain ⟨hcloses, rfl⟩ := closes_of_runs hruns
  refine ⟨sound_closed, fun b c a hmem => ?_⟩
  cases hcloses with
  | nothing => cases hmem
  | asked => cases List.mem_singleton.mp hmem

/-- The page of a session is the active one; a browser is started for it if there is none. -/
theorem careful_page (hs : s.Sound) : Careful named page s := by
  apply Careful.of_no_call
  intro log r s' hruns
  obtain ⟨e, -, hopens⟩ | ⟨hopens, -⟩ := runs_page hruns
  · exact ⟨hopens.sound hs, hopens.no_call⟩
  · exact ⟨hopens.sound hs, hopens.no_call⟩

/-- A call is made in the session that it finds, which it leaves alone. -/
theorem careful_call (hs : s.Sound) {c : BrowserCall} (hc : named s c) :
    Careful named (call c) s where
  sound hruns := (runs_call_iff.mp hruns).2 ▸ hs
  calls {before after b c' a r s'} hruns := by
    have hcalls := (runs_call_iff.mp hruns).1
    obtain ⟨hbefore, hcall⟩ : before = [] ∧ s.browser = some b ∧ c' = c := by
      generalize hlog : before ++ ⟨.callBrowser b c', a⟩ :: after = log at hcalls
      cases hcalls with
      | nowhere => exact absurd hlog (List.append_ne_nil_of_right_ne_nil _ (List.cons_ne_nil _ _))
      | asked b' hb =>
        cases before with
        | nil =>
          cases hlog
          exact ⟨rfl, hb, rfl⟩
        | cons ev before => cases before <;> cases hlog
    obtain ⟨hb, rfl⟩ := hcall
    subst hbefore
    exact ⟨s, hs, fun e => runs_call_iff.mpr ⟨.asked b hb _, rfl⟩, hc⟩

/-- **Tasks in a row are careful if each of them is,** from the sessions in which it starts. -/
theorem Careful.bind {t : Task Session α} {f : α → Task Session β} (ht : Careful named t s)
    (hf : ∀ first a m, t.Runs s first (.ok a) m → m.Sound → Careful named (f a) m) :
    Careful named (t >>= f) s where
  sound hruns := by
    obtain ⟨e, rfl, hfails⟩ | ⟨first, last, a, m, rfl, hfirst, hlast⟩ :=
      (Task.runs_bind_iff t f).mp hruns
    · exact ht.sound hfails
    · exact (hf first a m hfirst (ht.sound hfirst)).sound hlast
  calls hruns := by
    obtain ⟨e, rfl, hfails⟩ | ⟨first, last, a, m, hlog, hfirst, hlast⟩ :=
      (Task.runs_bind_iff t f).mp hruns
    · obtain ⟨m, hm, hmade, hnamed⟩ := ht.calls hfails
      exact ⟨m, hm, hmade.bind f, hnamed⟩
    obtain ⟨rest, rfl⟩ | ⟨front, rfl, rfl⟩ := Program.cut_of_append hlog
    · obtain ⟨k, hk, hmade, hnamed⟩ := ht.calls hfirst
      exact ⟨k, hk, hmade.bind f, hnamed⟩
    · obtain ⟨k, hk, hmade, hnamed⟩ := (hf first a m hfirst (ht.sound hfirst)).calls hlast
      exact ⟨k, hk, .of_rest hfirst hmade, hnamed⟩

/-- A call on the context is addressed to no page. -/
theorem careful_callContext (hs : s.Sound) (method : String) (args : List Json) :
    Careful AtActive (callContext method args) s := by
  apply (careful_open hs).bind
  intro first _ m _ hm
  exact careful_call hm fun p hp => by cases hp

/-- A call to the active page names it, since it is made in the session in which the page was looked
up. -/
theorem careful_callActive (hs : s.Sound) {c : String → BrowserCall}
    (hc : ∀ p, (c p).target.page? = some p) : Careful AtActive (callActive c) s := by
  apply (careful_page hs).bind
  intro first p m hpage hm
  obtain ⟨e, he, -⟩ | ⟨-, hp⟩ := runs_page hpage
  · cases he
  have hactive : m.active = some p := by
    cases hm : m.active with
    | none => rw [hm] at hp; cases hp
    | some q => rw [hm] at hp; cases hp; rfl
  apply careful_call hm
  intro q hq
  rw [hc p] at hq
  exact hq ▸ hactive

/-- A session in which a call succeeded has a browser. -/
theorem isOpen_of_call {c : BrowserCall} {v : Json} (h : Task.Runs (call c) s log (.ok v) m) :
    m.isOpen = true := by
  obtain ⟨hcalls, rfl⟩ := runs_call_iff.mp h
  cases hcalls with
  | asked b hb => exact Option.isSome_iff_exists.mpr ⟨b, hb⟩

/-- A session has a browser after a task that ends with a call that succeeded. -/
theorem isOpen_of_then_call {t : Task Session α} {c : α → BrowserCall} {v : Json}
    (h : Task.Runs (t >>= fun a => call (c a)) s log (.ok v) m) : m.isOpen = true := by
  obtain ⟨e, he, -⟩ | ⟨first, last, a, m', -, -, hcall⟩ := (Task.runs_bind_iff _ _).mp h
  · cases he
  · exact isOpen_of_call hcall

/-- Following an answer is careful if the answer comes from a browser. -/
theorem careful_follow {t : Task Session Json} (ht : Careful named t s)
    (hopen : ∀ {first v m}, t.Runs s first (.ok v) m → m.isOpen = true)
    (pick : Json → Except Failure String) : Careful named (follow t pick) s := by
  apply ht.bind
  intro first v m hfirst hm
  apply (careful_ofExcept hm (pick v)).bind
  intro _ p m' hpick hm'
  obtain ⟨-, -, rfl⟩ := Task.runs_ofExcept_iff.mp hpick
  exact careful_modify (hm.switchTo p (hopen hfirst))

/-- A session with a main page is not closed. -/
theorem Sound.isOpen_of_mainPage (hs : s.Sound) {p : String} (h : s.mainPage? = some p) :
    s.isOpen = true := by
  apply Option.isSome_iff_ne_none.mpr
  intro hnone
  rw [mainPage?, hs.pages_of_closed hnone] at h
  cases h

/-- Going to the main page moves the cursor to a page that is known, or fails. -/
theorem careful_switchToMain (hs : s.Sound) : Careful named switchToMain s := by
  apply careful_get_bind
  cases hmain : s.mainPage? with
  | none => exact careful_ofExcept hs (.error .noActivePage)
  | some p => exact careful_modify (hs.switchTo p (hs.isOpen_of_mainPage hmain))

/-- **Orderly tasks are careful:** they keep every sound session sound, and address only pages that
are active at that moment. -/
theorem Orderly.careful {t : Task Session α} (h : Orderly t) :
    ∀ {s}, s.Sound → Careful AtActive t s := by
  -- on the grammar: only tasks in a row have parts
  induction h with
  | ofExcept x => exact fun hs => careful_ofExcept hs x
  | apart q hq => exact fun hs => careful_apart hs hq
  | bind _ _ iht ihf => exact fun hs => (iht hs).bind fun _ a _ _ hm => ihf a hm
  | open_ => exact fun hs => careful_open hs
  | close => exact fun _ => careful_close
  | callContext method args => exact fun hs => careful_callContext hs method args
  | callActive c hc => exact fun hs => careful_callActive hs hc
  | followContext method args pick =>
    exact fun hs => careful_follow (careful_callContext hs method args) isOpen_of_then_call pick
  | followActive c hc pick =>
    exact fun hs => careful_follow (careful_callActive hs hc) isOpen_of_then_call pick
  | switchToMain => exact fun hs => careful_switchToMain hs

end Session

end SuiteRunner

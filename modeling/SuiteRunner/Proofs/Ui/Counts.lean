import SuiteRunner.Proofs.Number.Order
import SuiteRunner.Proofs.Ui.Cursor

/-!
  SuiteRunner.Proofs.Ui.Counts
  ────────────────────────────────
  **WHAT COUNT ASSERTIONS COMPARE.**

  Two keywords compare a count with the number that is the value of their step.  Both make a count
  of that number first, toward zero and within 64 bits, and the number of rows is made a count in
  the same way:

    • `Session.runs_callActive` — a call to the active page is the last thing that is asked,
    • `Session.callActive_bind_ok_iff` — and what is made of its answer decides,
    • `Ui.runs_assertRowCount` — rows are counted, and two counts are compared,
    • `Ui.runs_assertCount` — the browser is asked to expect a count,
    • `Ui.counts_truncated` — **what that means for the number in the step.**
-/

namespace SuiteRunner

/-! ## §1. Calls to the active page. -/

namespace Session

variable {s s' : Session} {log : Log}

/-- Nothing in a log is a call. -/
def NoCalls (log : Log) : Prop := ∀ b c a, (⟨.callBrowser b c, a⟩ : Event outside) ∉ log

/-- **A call to the active page is the last thing that is asked,** and its answer is the result;
without a page nothing is called. -/
theorem runs_callActive {c : String → BrowserCall} {r : Except Failure Json}
    (h : Task.Runs (callActive c) s log r s') :
    (NoCalls log ∧ ∃ e, r = .error e) ∨
      ∃ first b p, log = first ++ [⟨.callBrowser b (c p), r⟩] ∧ NoCalls first := by
  obtain ⟨e, rfl, hpage⟩ | ⟨first, last, p, m, rfl, hpage, hcall⟩ := (Task.runs_bind_iff _ _).mp h
  · left
    refine ⟨?_, e, rfl⟩
    obtain ⟨_, -, hopens⟩ | ⟨hopens, -⟩ := runs_page hpage
    · exact hopens.no_call
    · exact hopens.no_call
  · have hfirst : NoCalls first := by
      obtain ⟨_, -, hopens⟩ | ⟨hopens, -⟩ := runs_page hpage
      · exact hopens.no_call
      · exact hopens.no_call
    obtain ⟨hcalls, -⟩ := runs_call_iff.mp hcall
    cases hcalls with
    | nowhere =>
      left
      rw [List.append_nil]
      exact ⟨hfirst, _, rfl⟩
    | asked b => exact .inr ⟨first, b, p, rfl, hfirst⟩

/-- What is asked after a call to the active page, when that is nothing more. -/
theorem runs_callActive_bind {α : Type} {c : String → BrowserCall}
    {f : Json → Except Failure α} {r : Except Failure α}
    (h : Task.Runs (callActive c >>= fun v => Task.ofExcept (f v)) s log r s') :
    (NoCalls log ∧ ∃ e, r = .error e) ∨
      ∃ first b p a, log = first ++ [⟨.callBrowser b (c p), a⟩] ∧ NoCalls first ∧ r = a >>= f := by
  obtain ⟨e, rfl, hcall⟩ | ⟨first, last, v, m, rfl, hcall, hf⟩ := (Task.runs_bind_iff _ _).mp h
  · obtain ⟨hnone, -⟩ | ⟨first, b, p, rfl, hfirst⟩ := runs_callActive hcall
    · exact .inl ⟨hnone, e, rfl⟩
    · exact .inr ⟨first, b, p, .error e, rfl, hfirst, rfl⟩
  · obtain ⟨rfl, rfl, -⟩ := Task.runs_ofExcept_iff.mp hf
    rw [List.append_nil]
    obtain ⟨-, e, he⟩ | ⟨first, b, p, rfl, hfirst⟩ := runs_callActive hcall
    · cases he
    · exact .inr ⟨first, b, p, .ok v, rfl, hfirst, rfl⟩

/-- **No other call is made, and all is well if that one is answered and something is made of the
answer.** -/
theorem callActive_bind_ok_iff {α : Type} {c : String → BrowserCall}
    {f : Json → Except Failure α} {r : Except Failure α}
    (h : Task.Runs (callActive c >>= fun v => Task.ofExcept (f v)) s log r s') :
    (∀ b d a, (⟨.callBrowser b d, a⟩ : Event outside) ∈ log → ∃ p, d = c p) ∧
    ((∃ o, r = .ok o) ↔ ∃ first b p w o,
      log = first ++ [⟨.callBrowser b (c p), .ok w⟩] ∧ f w = .ok o) := by
  obtain ⟨hnone, e, rfl⟩ | ⟨first, b, p, a, rfl, hfirst, rfl⟩ := runs_callActive_bind h
  · -- nothing was called, so nothing was answered
    refine ⟨fun b d a hmem => absurd hmem (hnone b d a), ?_⟩
    refine iff_of_false (fun ⟨o, ho⟩ => by cases ho) ?_
    rintro ⟨first, b, p, w, o, rfl, -⟩
    exact hnone _ _ _ (List.mem_append_right _ (List.mem_singleton.mpr rfl))
  · constructor
    · intro b' d a' hmem
      obtain hmem | hmem := List.mem_append.mp hmem
      · exact absurd hmem (hfirst b' d a')
      · cases List.mem_singleton.mp hmem
        exact ⟨p, rfl⟩
    · constructor
      · rintro ⟨o, ho⟩
        obtain ⟨w, rfl, hw⟩ := bind_eq_ok_iff.mp ho
        exact ⟨first, b, p, w, o, rfl, hw⟩
      · rintro ⟨first', b', p', w, o, hlog, hw⟩
        obtain ⟨-, hlast⟩ := List.append_inj' hlog rfl
        generalize c p = d at hlast
        generalize c p' = d' at hlast
        cases hlast
        exact ⟨o, hw⟩

end Session

/-! ## §2. Keywords that count. -/

namespace Table

/-- The verdict on the answer to the question for the number of rows. -/
def rowVerdict (expected : Nat) (v : Json) : Except Failure (Option Json) :=
  match v.asNumber? with
  | some y =>
    if Step.count y = expected then .ok none
    else .error (.assertionFailed ("table row count: expected " ++ toString expected ++ ", got "
      ++ toString (Step.count y)))
  | none => .error (.driver ("count returned " ++ v.compact))

/-- Rows are counted by one call, and the answer is compared with the count that is expected. -/
theorem perform_assertRowCount (table : String) (expected : Nat) :
    (Use.assertRowCount expected).perform table
      = Session.callActive (fun p => ⟨.locator p (rows table), "count", []⟩) >>= fun v =>
          Task.ofExcept (rowVerdict expected v) := by
  show (rowCount table >>= _) = _
  unfold rowCount
  rw [bind_assoc]
  congr 1
  funext v
  unfold rowVerdict
  cases v.asNumber? with
  | none => rfl
  | some y =>
    rw [pure_bind]
    by_cases hsame : Step.count y = expected
    · rw [if_pos hsame]
      simp only [if_pos hsame]
      rfl
    · rw [if_neg hsame]
      simp only [if_neg hsame]
      rfl

/-- **The number of rows loses its fraction** before it is compared with a count. -/
theorem rowVerdict_ok_iff {expected : Nat} {v : Json} :
    (∃ o, rowVerdict expected v = .ok o) ↔ ∃ y, v.asNumber? = some y ∧ Step.count y = expected := by
  unfold rowVerdict
  cases v.asNumber? with
  | none => simp
  | some y => by_cases h : Step.count y = expected <;> simp [h]

end Table

namespace Ui

variable {setup : UiSetup} {base : String} {step : Step} {x : Binary64} {selector : String}
  {g g' : Stage} {log : Log} {r : Except Failure (Option Json)}

/-- A keyword whose action is known, on the session. -/
theorem runs_keyword {k : Keyword} {a : Action} (h : Action.ofStep base k step = .ok a)
    (hk : Action.isCustom k = false)
    (hruns : (keyword setup base k step).Runs g log r g') :
    ∃ m, (a.performOnSession setup).Runs g.session log r m := by
  unfold keyword at hruns
  rw [h] at hruns
  have hperform : (a.perform setup step).Runs g log r g' := hruns
  rw [Action.perform_eq_onSession h hk] at hperform
  obtain ⟨m, hm, -⟩ := Task.runs_focus_iff.mp hperform
  exact ⟨m, hm⟩

/-- The count that is expected is the number of the step without its fraction. -/
theorem ofStep_assertRowCount (hvalue : step.valueNumber? = some x)
    (hselector : step.selector = .ok selector) :
    Action.ofStep base .tableAssertRowCount step
      = .ok (.useTable selector (.assertRowCount (Step.count x))) := by
  show (step.selector >>= _) = _
  rw [hselector]
  show ((step.need step.valueNumber? >>= _) >>= _) = _
  rw [hvalue]
  rfl

/-- **Rows are counted, and two counts are compared.** -/
theorem runs_assertRowCount (hvalue : step.valueNumber? = some x)
    (hselector : step.selector = .ok selector)
    (h : (keyword setup base .tableAssertRowCount step).Runs g log r g') :
    (∃ o, r = .ok o) ↔ ∃ first b p w y,
      log = first ++ [⟨.callBrowser b ⟨.locator p (Table.rows selector), "count", []⟩, .ok w⟩] ∧
      w.asNumber? = some y ∧ Step.count y = Step.count x := by
  obtain ⟨m, hm⟩ := runs_keyword (ofStep_assertRowCount hvalue hselector) rfl h
  have huse : ((Table.Use.assertRowCount (Step.count x)).perform selector).Runs g.session log r m :=
    hm
  rw [Table.perform_assertRowCount] at huse
  rw [(Session.callActive_bind_ok_iff huse).2]
  constructor
  · rintro ⟨first, b, p, w, o, hlog, hverdict⟩
    obtain ⟨y, hy, hcount⟩ := Table.rowVerdict_ok_iff.mp ⟨o, hverdict⟩
    exact ⟨first, b, p, w, y, hlog, hy, hcount⟩
  · rintro ⟨first, b, p, w, y, hlog, hy, hcount⟩
    obtain ⟨o, hverdict⟩ := Table.rowVerdict_ok_iff.mpr ⟨y, hy, hcount⟩
    exact ⟨first, b, p, w, o, hlog, hverdict⟩

/-- The driver is told to expect the number of the step without its fraction. -/
theorem ofStep_assertCount (hvalue : step.valueNumber? = some x)
    (hselector : step.selector = .ok selector) :
    Action.ofStep base .assertCount step
      = .ok (.expect (some selector) false "toHaveCount"
          [Json.ofNat (Step.count x), step.limitArgument]) := by
  show (step.need step.valueNumber? >>= _) = _
  rw [hvalue]
  show (step.selector >>= _) = _
  rw [hselector]
  rfl

/-- **The browser is asked to expect a count,** and nothing else. -/
theorem runs_assertCount (hvalue : step.valueNumber? = some x)
    (hselector : step.selector = .ok selector)
    (h : (keyword setup base .assertCount step).Runs g log r g') :
    (∀ b c a, (⟨.callBrowser b c, a⟩ : Event outside) ∈ log → ∃ p,
      c = ⟨.expectation p (some selector) false, "toHaveCount",
        [Json.ofNat (Step.count x), step.limitArgument]⟩) ∧
    ((∃ o, r = .ok o) ↔ ∃ first b c w, log = first ++ [⟨.callBrowser b c, .ok w⟩]) := by
  obtain ⟨m, hm⟩ := runs_keyword (ofStep_assertCount hvalue hselector) rfl h
  have hexpect : (Session.callActive (fun p => ⟨.expectation p (some selector) false, "toHaveCount",
        [Json.ofNat (Step.count x), step.limitArgument]⟩) >>= fun _ =>
          Task.ofExcept (.ok none)).Runs g.session log r m := by
    have hsilent : (Session.expect (some selector) false "toHaveCount"
        [Json.ofNat (Step.count x), step.limitArgument] >>= fun _ => pure none).Runs
          g.session log r m := hm
    rw [Session.expect_eq, bind_assoc] at hsilent
    exact hsilent
  obtain ⟨hcalls, hok⟩ := Session.callActive_bind_ok_iff hexpect
  refine ⟨hcalls, hok.trans ⟨?_, ?_⟩⟩
  · rintro ⟨first, b, p, w, -, hlog, -⟩
    exact ⟨first, b, _, w, hlog⟩
  · -- whatever was called last, it was that
    rintro ⟨first, b, c, w, hlog⟩
    obtain ⟨p, rfl⟩ := hcalls b c (.ok w) (hlog ▸ List.mem_append_right _ List.mem_cons_self)
    exact ⟨first, b, p, w, none, hlog, rfl⟩

/-- **COUNT ASSERTIONS COMPARE WITH THE COUNT THAT IS MADE OF THE NUMBER IN THE STEP.**  That count is
the greatest one of 64 bits that the number is at least, or zero.  Assertions on rows pass exactly
if the same count is made of the answer, and the browser is never asked to expect any other count.
So the comparison is with the number itself exactly for numbers that are counts.  A negative,
fractional or infinite number, and `nan`, is no count, and still some number of rows passes. -/
theorem counts_truncated (setup : UiSetup) (base : String)
    (hvalue : step.valueNumber? = some x) (hselector : step.selector = .ok selector) :
    (∀ n, n ≤ Step.count x ↔ n = 0 ∨ n ≤ Step.greatestCount ∧ x.AtLeast n) ∧
    (∀ {g log r g'}, (keyword setup base .tableAssertRowCount step).Runs g log r g' →
      ((∃ o, r = .ok o) ↔ ∃ first b p w y,
        log = first ++ [⟨.callBrowser b ⟨.locator p (Table.rows selector), "count", []⟩, .ok w⟩] ∧
        w.asNumber? = some y ∧ Step.count y = Step.count x)) ∧
    (∀ n : Nat, n ≤ 2 ^ 53 → ∃ y, (Json.ofNat n).asNumber? = some y ∧ Step.count y = n) ∧
    (∀ {g log r g'}, (keyword setup base .assertCount step).Runs g log r g' →
      (∀ b c a, (⟨.callBrowser b c, a⟩ : Event outside) ∈ log → ∃ p,
        c = ⟨.expectation p (some selector) false, "toHaveCount",
          [Json.ofNat (Step.count x), step.limitArgument]⟩) ∧
      ((∃ o, r = .ok o) ↔ ∃ first b c w, log = first ++ [⟨.callBrowser b c, .ok w⟩])) ∧
    ((∀ n ≤ Step.greatestCount, n = Step.count x ↔ x.Is n) ↔ ∃ n ≤ Step.greatestCount, x.Is n) := by
  refine ⟨fun n => Binary64.le_toNatSaturating_iff, ?_, ?_, ?_,
    Binary64.toNatSaturating_eq_iff_is⟩
  · intro g log r g' hruns
    exact runs_assertRowCount hvalue hselector hruns
  · intro n hn
    have hsmall : 2 ^ 53 ≤ Step.greatestCount := by decide
    exact ⟨.ofInt n, rfl, (Binary64.is_ofInt hn).toNatSaturating_eq (Nat.le_trans hn hsmall)⟩
  · intro g log r g' hruns
    exact runs_assertCount hvalue hselector hruns

/-- A step on a table that is to have ten rows, the number given as a text. -/
def tenRows : Step := { locator := some (Locator.plain "css" "#rows"), value := some (.str " 1e1 ") }

theorem counts_truncated_tenRows :
    ∃ x, tenRows.valueNumber? = some x ∧ tenRows.selector = .ok "css=#rows" ∧ x.Is 10 ∧
      ∀ n ≤ Step.greatestCount, n = Step.count x ↔ x.Is n := by
  have hvalue : tenRows.valueNumber? = some (.ofScientific false 1 1) := by decide +kernel
  have hselector : tenRows.selector = .ok "css=#rows" := rfl
  have hten : (Binary64.ofScientific false 1 1).Is 10 := by decide +kernel
  exact ⟨_, hvalue, hselector, hten,
    (counts_truncated {} "" hvalue hselector).2.2.2.2.mpr ⟨10, by decide, hten⟩⟩

/-- A step on a table that is to have two rows and a half. -/
def halfRow : Step :=
  { locator := some (Locator.plain "css" "#rows")
    value := some (.num (.float (.ofScientific false 25 (-1)))) }

/-- A page with a table of two rows. -/
def twoRows : Behaviour outside := fun past q =>
  match q with
  | .callBrowser _ _ => .ok (.ofNat 2)
  | q => idle .empty past q

/-- Two rows pass for two rows and a half, and two elements are expected for two and a half. -/
theorem two_rows_pass_for_more :
    ∃ x, halfRow.valueNumber? = some x ∧ (¬x.Is 2) ∧
      (Task.play twoRows (keyword {} "" .tableAssertRowCount halfRow) default []).1.1.isOk = true ∧
      Action.ofStep "" .assertCount halfRow
        = .ok (.expect (some "css=#rows") false "toHaveCount"
            [.ofNat 2, halfRow.limitArgument]) := by
  have hvalue : halfRow.valueNumber? = some (.ofScientific false 25 (-1)) := rfl
  have hselector : halfRow.selector = .ok "css=#rows" := rfl
  have hcount : Step.count (.ofScientific false 25 (-1)) = 2 := by decide +kernel
  have haction : Action.ofStep "" .assertCount halfRow
      = .ok (.expect (some "css=#rows") false "toHaveCount"
          [.ofNat 2, halfRow.limitArgument]) := by
    rw [ofStep_assertCount hvalue hselector, hcount]
  exact ⟨_, hvalue, by decide +kernel, by decide +kernel, haction⟩

end Ui

end SuiteRunner

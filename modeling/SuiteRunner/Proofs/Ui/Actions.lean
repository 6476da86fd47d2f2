import SuiteRunner.Proofs.Browser.Session
import SuiteRunner.Proofs.Outside.Results
import SuiteRunner.Ui.Perform

/-!
  SuiteRunner.Proofs.Ui.Actions
  ────────────────────────────────
  **ACTIONS ARE ORDERLY.**

  Every action that touches the session alone is derived in the grammar of orderly tasks, with one
  exception: closing a page at a position may address a page that is not the active one.

    • `Table.Use.orderly_perform` — all that is done with tables,
    • `Action.orderly_performOnSession` — all actions but closing a page,
    • `Action.ofStep_closePage` — which keywords close a page, and which one.
-/

namespace SuiteRunner

open Session

/-! ## §1. Tables. -/

namespace Table

/-- A column is known by its number, or looked for among the texts of the header. -/
theorem orderly_positionOf (table : String) (column : Column) :
    Orderly (positionOf table column) := by
  cases column with
  | position n => exact .pure n
  | header wanted =>
    apply Orderly.bind (.callElement _ _ _)
    intro v
    dsimp only
    cases (textsOf v).findIdx? (isHeader wanted) with
    | some n => exact .pure n
    | none => exact .throw _

/-- The texts of a column come from one call. -/
theorem orderly_columnTexts (table : String) (column : Nat) :
    Orderly (columnTexts table column) :=
  .bind (.callElement _ _ _) fun _ => .pure _

/-- A cell is asked for its text after the number of its column. -/
theorem orderly_cellText (table : String) (row : Nat) (column : Column) :
    Orderly (cellText table row column) :=
  .bind (orderly_positionOf table column) fun _ => .callElement _ _ _

/-- Rows are counted by one call, and its answer has to be a number. -/
theorem orderly_rowCount (table : String) : Orderly (rowCount table) := by
  apply Orderly.bind (.callElement _ _ _)
  intro v
  cases v.asNumber? with
  | some x => exact .pure _
  | none => exact .throw _

theorem orderly_clickTimes (selector : String) (n : Nat) : Orderly (clickTimes selector n) := by
  induction n with
  | zero => exact .pure ()
  | succ n ih => exact .bind (.callElement _ _ _) fun _ => ih

/-- What is done with the texts of a column. -/
theorem orderly_withColumn {α : Type} (table : String) (column : Column)
    {f : Nat → List String → Task Session α} (hf : ∀ c texts, Orderly (f c texts)) :
    Orderly (do let c ← positionOf table column; let texts ← columnTexts table c; f c texts) := by
  apply Orderly.bind (orderly_positionOf table column)
  intro c
  exact .bind (orderly_columnTexts table c) (hf c)

/-- **All that is done with tables is orderly.** -/
theorem Use.orderly_perform (table : String) (use : Use) : Orderly (use.perform table) := by
  cases use with
  | getCell row column => exact .bind (orderly_cellText table row column) fun _ => .pure _
  | clickCell row column =>
    apply Orderly.bind (orderly_positionOf table column)
    intro c
    exact .bind (.callElement _ _ _) fun _ => .pure _
  | assertCell expected row column =>
    apply Orderly.bind (orderly_cellText table row column)
    intro v
    by_cases hsame : Text.trim (valueText v) = Text.trim expected
    · -- the comparison is unfolded before its branches are taken
      show Orderly (if Text.trim (valueText v) = Text.trim expected then _ else _)
      rw [if_pos hsame]
      exact .pure _
    · show Orderly (if Text.trim (valueText v) = Text.trim expected then _ else _)
      rw [if_neg hsame]
      exact .throw _
  | getRowCount => exact .bind (orderly_rowCount table) fun _ => .pure _
  | assertRowCount expected =>
    apply Orderly.bind (orderly_rowCount table)
    intro actual
    by_cases hsame : actual = expected
    · rw [if_pos hsame]
      exact .pure _
    · rw [if_neg hsame]
      exact .throw _
  | getColumn column => exact orderly_withColumn table column fun _ _ => .pure _
  | findRow wanted column =>
    apply orderly_withColumn table column
    intro c texts
    cases texts.findIdx? fun t => Text.trim t == Text.trim wanted with
    | some i => exact .pure _
    | none => exact .throw _
  | sortBy column descending =>
    apply Orderly.bind (orderly_positionOf table column)
    intro c
    exact .bind (orderly_clickTimes _ _) fun _ => .pure _
  | filter wanted column => exact orderly_withColumn table column fun _ _ => .pure _
  | assertSorted column descending =>
    apply orderly_withColumn table column
    intro c texts
    exact .bind (.ofExcept _) fun _ => .pure _

end Table

/-! ## §2. Actions. -/

namespace Action

/-- Without an address nothing is visited. -/
theorem orderly_visit (url : Option String) : Orderly (visit url) := by
  cases url with
  | none => exact .pure ()
  | some url => exact .bind (.callPage _ _) fun _ => .pure ()

theorem orderly_bringToFront : Orderly bringToFront :=
  .bind (.callPage _ _) fun _ => .pure ()

/-- A page is opened, taken for the active one and then visited. -/
theorem orderly_openPage (url : Option String) : Orderly (openPage url) := by
  have heq : openPage url
      = follow (callContext "newPage" []) pageNamed >>= fun _ => visit url := by
    unfold openPage follow
    simp only [bind_assoc]
  rw [heq]
  exact .bind (.followContext _ _ _) fun _ => orderly_visit url

theorem orderly_toPopup (options : Json) : Orderly (toPopup options) :=
  .followActive (fun p => ⟨.page p, "waitForPopup", [options]⟩) (fun _ => rfl) pageNamed

/-- The page of the tab at a position. -/
def tabNamed (position : Nat) (v : Json) : Except Failure String := tabAt position v >>= pageNamed

/-- Going to a tab fails if there is none at that position. -/
theorem orderly_toTab (position : Nat) : Orderly (toTab position) := by
  have heq : toTab position
      = follow (callContext "pages" []) (tabNamed position) >>= fun _ => bringToFront := by
    unfold toTab follow
    rw [bind_assoc]
    congr 1
    funext tabs
    unfold tabNamed
    cases tabAt position tabs with
    | error e => rfl
    | ok tab =>
      show (do let p ← Task.ofExcept (pageNamed tab); modify (switchTo p); bringToFront)
        = ((do let p ← Task.ofExcept (pageNamed tab); modify (switchTo p)) >>= fun _ => bringToFront :
            Task Session Unit)
      rw [bind_assoc]
  rw [heq]
  exact .bind (.followContext _ _ _) fun _ => orderly_bringToFront

theorem orderly_toMainTab : Orderly toMainTab := by
  have heq : toMainTab = switchToMain >>= fun _ => bringToFront := by
    unfold toMainTab switchToMain
    rw [bind_assoc]
    congr 1
    funext s
    cases s.mainPage? with
    | none => rfl
    | some p => rfl
  rw [heq]
  exact .bind .switchToMain fun _ => orderly_bringToFront

/-- An answer that is dropped is asked for all the same. -/
theorem orderly_silent {t : Task Session Unit} (ht : Orderly t) : Orderly (silent t) :=
  .bind ht fun _ => .pure none

theorem orderly_withOutput (output : Bool) {t : Task Session Json} (ht : Orderly t) :
    Orderly (withOutput output t) :=
  .bind ht fun _ => .pure _

/-- **Every action on the session is orderly, but for closing a page.** -/
theorem orderly_performOnSession (setup : UiSetup) (a : Action)
    (ha : ∀ position, a ≠ .closePage position) : Orderly (a.performOnSession setup) := by
  cases a with
  | openBrowser url => exact orderly_silent (.bind .open_ fun _ => orderly_visit url)
  | closeBrowser => exact orderly_silent .close
  | newPage url => exact orderly_silent (orderly_openPage url)
  | closePage position => exact absurd rfl (ha position)
  | screenshot name => exact .bind (.screenshot _ name) fun _ => .pure none
  | onPage output method args => exact orderly_withOutput output (.callPage method args)
  | onElement output selector method args =>
    exact orderly_withOutput output (.callElement selector method args)
  | onKeyboard method args => exact orderly_withOutput false (.callKeyboard method args)
  | pause ms => exact orderly_silent (.apart (.pause ms) rfl)
  | expect selector negated method args => exact orderly_silent (.expect selector negated method args)
  | switchToPopup options => exact orderly_silent (orderly_toPopup options)
  | switchToTab position => exact orderly_silent (orderly_toTab position)
  | switchToMainTab => exact orderly_silent orderly_toMainTab
  | useTable table use => exact use.orderly_perform table
  | judge verdict => exact orderly_silent (.ofExcept verdict)
  | refuse f => exact .throw f
  | customStep call => exact .pure none
  | customCode => exact .pure none

/-! ## §3. Actions and keywords. -/

/-- Whether a keyword closes a page. -/
def closesPage (k : Keyword) : Bool := k = .closePage ∨ k = .closeTab

/-- Whether a keyword calls custom code. -/
def isCustom (k : Keyword) : Bool := k = .customStep ∨ k = .customCode

/-- The keywords that may have an action, for those actions that do more than the rest: closing a
page that need not be active, and custom code. -/
def Fits (k : Keyword) (s : Step) : Action → Prop
  | .closePage position => closesPage k = true ∧ position = s.valueNumber?.map Step.count
  | .customStep _ | .customCode => isCustom k = true
  | _ => True

/-- **Only some keywords close pages or call custom code.** -/
theorem fits_of_ofStep {base : String} {k : Keyword} {s : Step} {a : Action}
    (h : ofStep base k s = .ok a) : Fits k s a := by
  cases k
  case press =>
    obtain ⟨key, -, hpress⟩ := bind_eq_ok_iff.mp h
    by_cases hlocator : s.locator.isSome
    · rw [if_pos hlocator] at hpress
      obtain ⟨selector, -, ha⟩ := bind_eq_ok_iff.mp hpress
      cases ha
      exact trivial
    · rw [if_neg hlocator] at hpress
      cases hpress
      exact trivial
  -- each of the others makes its action in one way, from operands that may be missing
  all_goals
    simp only [ofStep, page, element, elementWith, queryElement, expectElement, expectPage,
      bind_eq_ok_iff, pure, Except.pure, Except.ok.injEq] at h
    grind [Fits, closesPage, isCustom]

/-- A keyword without custom code touches the session alone. -/
theorem perform_eq_onSession {base : String} {k : Keyword} {s : Step} {a : Action}
    (h : ofStep base k s = .ok a) (hk : isCustom k = false) (setup : UiSetup) :
    a.perform setup s = Stage.onSession (a.performOnSession setup) := by
  have hfits := fits_of_ofStep h
  cases a
  case customStep call => exact absurd hfits (by rw [Fits, hk]; exact Bool.false_ne_true)
  case customCode => exact absurd hfits (by rw [Fits, hk]; exact Bool.false_ne_true)
  all_goals rfl

end Action

end SuiteRunner

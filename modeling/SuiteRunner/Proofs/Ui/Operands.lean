import SuiteRunner.Proofs.Locator.Strategies
import SuiteRunner.Proofs.Ui.Cursor

/-!
  SuiteRunner.Proofs.Ui.Operands
  ────────────────────────────────
  **NOTHING HAPPENS BEFORE THE OPERANDS ARE THERE.**

  `Keyword.needs` lists what each keyword takes from its step and cannot do without, and
  `Keyword.elements` the locators that it acts on.  A step is `Ready` for its keyword if all of the
  first is there and every strategy in the second is known.  Then, and only then, its action can be
  made, and nothing is asked of the outside before:

    • `succeeds_element`, `succeeds_viewport`, … — when each part of an action can be made,
    • `succeeds_ofStep` — when the action of a step can be made,
    • `operands_first` — what a keyword does with a step that is not ready: nothing.
-/

namespace SuiteRunner

/-! ## §1. What a keyword needs. -/

/-- Something that a keyword takes from its step. -/
inductive Operand where
  | locator
  | value
  /-- The value, as a number. -/
  | number
  | option (key : String)
  /-- An option, as a number. -/
  | optionNumber (key : String)
  /-- An option, as the description of an element. -/
  | optionLocator (key : String)
  /-- A width and a height. -/
  | size
  /-- A call of custom code. -/
  | call
  /-- One of two. -/
  | either (a b : Operand)
  deriving DecidableEq

/-- **Whether a step gives an operand.** -/
def Operand.Given (s : Step) : Operand → Prop
  | .locator => s.locator.isSome
  | .value => s.value.isSome
  | .number => s.valueNumber?.isSome
  | .option key => (s.option? key).isSome
  | .optionNumber key => (s.optionNumber? key).isSome
  | .optionLocator key => ∃ v l, s.option? key = some v ∧ Decode.ofJson Locator.decode v = .ok l
  | .size =>
    (s.optionNumber? "width").isSome ∧ (s.optionNumber? "height").isSome ∨
      ∃ text w h, s.valueText? = some text ∧ Text.splitOnce? 'x' text = some (w, h) ∧
        (natOfText? Step.greatestCount (Text.trim w)).isSome ∧
        (natOfText? Step.greatestCount (Text.trim h)).isSome
  | .call => s.customFunction.isSome
  | .either a b => a.Given s ∨ b.Given s

/-- **What a keyword needs.** -/
def Keyword.needs : Keyword → List Operand
  | .setViewportSize => [.size]
  | .goto | .waitForUrl | .press | .assertUrl | .assertTitle => [.value]
  | .click | .dblClick | .rightClick | .clear | .check | .uncheck | .hover | .focus | .blur
  | .scrollIntoView | .tap | .waitForElement | .waitForElementHidden | .getText | .getValue
  | .getCount | .assertVisible | .assertHidden | .assertEnabled | .assertDisabled | .assertChecked
  | .assertNotChecked | .assertFocused | .tableGetRowCount => [.locator]
  | .fill | .typeText | .selectOption | .uploadFile | .assertText | .assertContainsText
  | .assertValue => [.locator, .value]
  | .dragAndDrop => [.locator, .optionLocator "target"]
  | .waitForTimeout => [.either .number (.optionNumber "timeout")]
  | .getAttribute => [.locator, .either (.option "attribute") .value]
  | .assertAttribute => [.locator, .either (.option "attribute") (.option "name"), .value]
  | .assertCount | .tableAssertRowCount => [.locator, .number]
  | .switchToTab => [.number]
  | .tableGetCell | .tableClickCell => [.locator, .optionNumber "row", .option "column"]
  | .tableAssertCell => [.locator, .value, .optionNumber "row", .option "column"]
  | .tableGetColumn | .tableSortBy | .tableAssertSorted => [.locator, .option "column"]
  | .tableFindRow | .tableFilter => [.locator, .value, .option "column"]
  | .assertEquals | .assertNotEquals | .assertContains | .assertGreaterThan | .assertLessThan =>
    [.option "actual", .either (.option "expected") .value]
  | .customStep => [.call]
  | .openBrowser | .closeBrowser | .newPage | .openNewTab | .closePage | .closeTab | .screenshot
  | .reload | .goBack | .goForward | .waitForLoadState | .getTitle | .getUrl | .switchToPopup
  | .switchToMainTab | .acceptDialog | .dismissDialog | .getAlertText | .switchToFrame
  | .customCode => []

/-- Whether a keyword acts on the element of its step; pressing a key needs none, but acts on it. -/
def Keyword.actsOnElement (k : Keyword) : Bool := k.needs.contains .locator || k = .press

/-- The element that something is dropped on. -/
def Step.dropElement? (s : Step) : Option Locator :=
  (s.option? "target").bind fun v => (Decode.ofJson Locator.decode v).toOption

/-- The locators of the elements that a keyword acts on. -/
def Keyword.elements (k : Keyword) (s : Step) : List Locator :=
  (if k.actsOnElement then s.locator.toList else []) ++
    if k = .dragAndDrop then s.dropElement?.toList else []

/-- A locator all of whose strategies are known, at any depth. -/
def Locator.Known (l : Locator) : Prop := ∀ strategy ∈ l.strategies, strategy ∈ knownStrategies

/-- **A step is ready for a keyword:** everything that the keyword needs is there, and the elements
that it acts on can be told. -/
structure Ready (k : Keyword) (s : Step) : Prop where
  given : ∀ o ∈ k.needs, o.Given s
  known : ∀ l ∈ k.elements s, l.Known

/-! ## §2. The parts of an action. -/

section

variable {α β : Type}

/-- A computation that succeeds. -/
def Succeeds (x : Except Failure α) : Prop := ∃ a, x = .ok a

/-- A success succeeds. -/
@[simp] theorem succeeds_ok (a : α) : Succeeds (.ok a) := ⟨a, rfl⟩

@[simp] theorem succeeds_pure (a : α) : Succeeds (pure a) := ⟨a, rfl⟩

/-- A failure does not. -/
@[simp] theorem not_succeeds_error (f : Failure) : ¬Succeeds (.error f : Except Failure α) := by
  rintro ⟨a, h⟩
  cases h

/-- **Two computations in a row succeed** if the first has a value with which the second succeeds.
-/
theorem succeeds_bind {x : Except Failure α} {f : α → Except Failure β} :
    Succeeds (x >>= f) ↔ ∃ a, x = .ok a ∧ Succeeds (f a) := by
  unfold Succeeds
  simp only [bind_eq_ok_iff]
  constructor
  · rintro ⟨b, a, hx, hf⟩
    exact ⟨a, hx, b, hf⟩
  · rintro ⟨a, hx, b, hf⟩
    exact ⟨b, a, hx, hf⟩

/-- To have a value is to succeed; this is for `simp`, which unfolds neither. -/
theorem exists_ok_iff {x : Except Failure α} : (∃ a, x = .ok a) ↔ Succeeds x := Iff.rfl

/-- Two computations in a row, when the second always succeeds. -/
theorem succeeds_bind_pure {x : Except Failure α} {f : α → Except Failure β}
    (hf : ∀ a, Succeeds (f a)) : Succeeds (x >>= f) ↔ Succeeds x := by
  rw [succeeds_bind]
  simp only [hf, and_true]
  rfl

end

namespace Step

variable {α : Type} (s : Step)

/-- What a step needs can be had exactly if it is there. -/
@[simp] theorem succeeds_need (a? : Option α) : Succeeds (s.need a?) ↔ a?.isSome := by
  cases a? with
  | none => simp [need]
  | some a => simp [need]

/-- The element of the step is there, and it can be told. -/
def HasElement : Prop := s.locator.isSome ∧ ∀ l, s.locator = some l → l.Known

/-- **The selector of a step can be made** exactly if it has an element, and all strategies of that
are known. -/
@[simp] theorem succeeds_selector : Succeeds s.selector ↔ s.HasElement := by
  unfold selector HasElement
  cases s.locator with
  | none => simp
  | some l =>
    have hselector : Succeeds l.selector ↔ l.Known := selector_ok_iff l
    simp [hselector]

end Step

namespace Action

variable (s : Step)

/-- A call on the element of a step asks for nothing but the element. -/
@[simp] theorem succeeds_element (method : String) (args : List Json) :
    Succeeds (element s method args) ↔ s.HasElement := by
  unfold element
  rw [succeeds_bind_pure fun _ => succeeds_pure _, s.succeeds_selector]

/-- The options of a call may all be missing. -/
@[simp] theorem succeeds_elementWith (method : String) (args : List Json)
    (members : List (String × Json)) :
    Succeeds (elementWith s method args members) ↔ s.HasElement := by
  unfold elementWith
  rw [succeeds_bind_pure fun _ => succeeds_pure _, s.succeeds_selector]

/-- To ask the element for something takes the element. -/
@[simp] theorem succeeds_queryElement (method : String) (args : List Json) :
    Succeeds (queryElement s method args) ↔ s.HasElement := by
  unfold queryElement
  rw [succeeds_bind_pure fun _ => succeeds_pure _, s.succeeds_selector]

/-- To expect something of an element takes the element, whether it is denied or not. -/
@[simp] theorem succeeds_expectElement (negated : Bool) (method : String) (args : List Json) :
    Succeeds (expectElement s negated method args) ↔ s.HasElement := by
  unfold expectElement
  rw [succeeds_bind_pure fun _ => succeeds_pure _, s.succeeds_selector]

/-- A call on a page takes nothing of the step. -/
@[simp] theorem succeeds_page (method : String) (args : List Json) : Succeeds (page method args) :=
  succeeds_ok _

/-- **A size is given** by two options or by a text with a cross in it; of two numbers and a text
the numbers count. -/
@[simp] theorem succeeds_viewport : Succeeds (viewport s) ↔ Operand.Given s .size := by
  unfold viewport Operand.Given
  split
  case h_1 w h hwidth hheight => simp [hwidth, hheight]
  case h_2 hnumbers =>
    have hnone : ¬((s.optionNumber? "width").isSome ∧ (s.optionNumber? "height").isSome) := by
      rintro ⟨hwidth, hheight⟩
      obtain ⟨w, hwidth⟩ := Option.isSome_iff_exists.mp hwidth
      obtain ⟨h, hheight⟩ := Option.isSome_iff_exists.mp hheight
      exact hnumbers w h hwidth hheight
    rw [Step.succeeds_need, or_iff_right hnone]
    simp only [Option.isSome_iff_exists, Option.bind_eq_bind, Option.bind_eq_some_iff]
    constructor
    · rintro ⟨-, text, htext, ⟨w, h⟩, hsplit, x, hw, y, hh, -⟩
      exact ⟨text, w, h, htext, hsplit, ⟨x, hw⟩, y, hh⟩
    · rintro ⟨text, w, h, htext, hsplit, ⟨x, hw⟩, y, hh⟩
      exact ⟨(x, y), text, htext, (w, h), hsplit, x, hw, y, hh, rfl⟩

/-- **What something is dropped on** is described by an option, and its strategies have to be known
too. -/
@[simp] theorem succeeds_dropTarget :
    Succeeds (dropTarget s) ↔
      Operand.Given s (.optionLocator "target") ∧ ∀ l, s.dropElement? = some l → l.Known := by
  unfold dropTarget Operand.Given Step.dropElement?
  rw [succeeds_bind]
  cases s.option? "target" with
  | none => simp [Step.need]
  | some v =>
    cases hdecode : Decode.ofJson Locator.decode v with
    | error e => simp [Step.need, hdecode]
    | ok l =>
      have hselector : Succeeds l.selector ↔ l.Known := selector_ok_iff l
      simp [Step.need, hdecode, hselector, Except.toOption]

end Action

namespace Table

variable (s : Step)

/-- A column may be a number or a name, so whatever the option says is a column. -/
@[simp] theorem succeeds_columnOf : Succeeds (columnOf s) ↔ (s.option? "column").isSome := by
  unfold columnOf
  cases s.option? "column" with
  | none => simp
  | some v =>
    cases hint : v.int? with
    | none => simp [hint]
    | some n => by_cases hn : n < 0 <;> simp [hint, hn]

/-- A row has to be a number. -/
@[simp] theorem succeeds_rowOf : Succeeds (rowOf s) ↔ (s.optionNumber? "row").isSome := by
  unfold rowOf
  cases s.optionNumber? "row" <;> simp

end Table

/-! ## §3. Steps that are ready. -/

/-- Locators that are there under a condition are known if they are known under that condition. -/
theorem known_of_ite (c : Prop) [Decidable c] (l? : Option Locator) :
    (∀ l ∈ (if c then l?.toList else []), l.Known) ↔ (c → ∀ l, l? = some l → l.Known) := by
  by_cases hc : c <;> simp [hc]

/-- **A step is ready** in three parts: its operands, its own element, and what something is dropped
on. -/
theorem ready_iff {k : Keyword} {s : Step} :
    Ready k s ↔ (∀ o ∈ k.needs, o.Given s) ∧
      (k.actsOnElement = true → ∀ l, s.locator = some l → l.Known) ∧
      (k = .dragAndDrop → ∀ l, s.dropElement? = some l → l.Known) := by
  rw [← known_of_ite, ← known_of_ite, ← List.forall_mem_append]
  exact ⟨fun h => ⟨h.given, h.known⟩, fun h => ⟨h.1, h.2⟩⟩

/-- **The action of a step can be made exactly if the step is ready for its keyword.** -/
theorem succeeds_ofStep (base : String) (k : Keyword) (s : Step) :
    Succeeds (Action.ofStep base k s) ↔ Ready k s := by
  rw [ready_iff]
  cases k
  case press =>
    unfold Action.ofStep
    rw [succeeds_bind]
    cases hlocator : s.locator <;>
      simp [-bind_pure_comp, Keyword.needs, Keyword.actsOnElement, Operand.Given, exists_ok_iff,
        Step.HasElement, Step.valueText?, hlocator]
  -- each of the others reads its operands in a row, whatever it makes of them
  all_goals
    simp [-bind_pure_comp, Action.ofStep, Table.Use.ofStep, Comparison.operands,
      Action.attributeAsked, Action.attributeExpected, Keyword.needs, Keyword.actsOnElement,
      Operand.Given, Step.HasElement, Step.valueText?, Step.optionText?, succeeds_bind,
      exists_ok_iff, and_comm, and_left_comm, and_assoc]

/-! ## §4. Keywords. -/

namespace Ui

/-- **NOTHING HAPPENS BEFORE THE OPERANDS ARE THERE.**  The action of a step can be made exactly if
everything is there that its keyword needs and every strategy is known in the locators that it acts
on, however deep.  If not, the keyword fails in every stage and under every behaviour of the
outside: it asks nothing, so that no browser is launched or called, and it leaves the session and
the variables as they were. -/
theorem operands_first (setup : UiSetup) (base : String) (k : Keyword) (step : Step) :
    ((∃ a, Action.ofStep base k step = .ok a) ↔ Ready k step) ∧
      (¬Ready k step → ∀ (b : Behaviour outside) (g : Stage) (past : Log),
        ∃ f, Task.play b (keyword setup base k step) g past = ((.error f, g), past)) := by
  refine ⟨succeeds_ofStep base k step, ?_⟩
  intro hready b g past
  cases haction : Action.ofStep base k step with
  | ok a => exact absurd ((succeeds_ofStep base k step).mp ⟨a, haction⟩) hready
  | error f =>
    refine ⟨f, ?_⟩
    unfold keyword
    rw [haction]
    rfl

/-- Something is to be dropped on a bin that has a mark, and marks are found by no known
strategy. -/
def dropOnMarked : Step :=
  { locator := some (Locator.plain "css" "#card")
    options := [("target", .obj [("strategy", .str "css"), ("value", .str "#bin"),
      ("filters", .arr [.obj [("type", .str "has"), ("locator", .obj [
        ("strategy", .str "mark"), ("value", .str "*")])]])])] }

/-- Every operand is there; what is unknown stands in a filter of the target. -/
theorem operands_first_dropOnMarked :
    ¬Ready .dragAndDrop dropOnMarked ∧ ∀ (b : Behaviour outside) (g : Stage) (past : Log),
      ∃ f, Task.play b (keyword {} "" .dragAndDrop dropOnMarked) g past
        = ((.error f, g), past) := by
  have hdrop : dropOnMarked.dropElement?
      = some ⟨"css", "#bin", {}, none, [.has (Locator.plain "mark" "*")], [], none⟩ := rfl
  have hready : ¬Ready .dragAndDrop dropOnMarked := by
    intro h
    have hknown := (ready_iff.mp h).2.2 rfl _ hdrop "mark" (by decide)
    exact absurd hknown (by decide)
  exact ⟨hready, (operands_first {} "" .dragAndDrop dropOnMarked).2 hready⟩

end Ui

end SuiteRunner

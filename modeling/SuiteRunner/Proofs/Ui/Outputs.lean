import SuiteRunner.Proofs.Ui.Cursor
import SuiteRunner.Proofs.Variables.Writes
import SuiteRunner.Ui.Run

/-!
  SuiteRunner.Proofs.Ui.Outputs
  ────────────────────────────────
  **WHICH KEYWORDS HAVE AN OUTPUT, AND WHAT IS WRITTEN OF IT.**

  A keyword with a marker has an output whenever it succeeds, and a keyword without a marker never
  has one.  Of the entries of a step those are written whose source is that marker; with the marker
  of custom code alone a source may also name a part of the output.

    • `Task.Gives` — tasks that always have an output, or never,
    • `Action.gives_performOnSession`, `Action.makes_ofStep` — actions, and those of keywords,
    • `Ui.keyword_gives` — a built-in keyword has an output exactly if it has a marker,
    • `updated_storeOutput` — the variables that are written of an output.
-/

namespace SuiteRunner

/-! ## §1. Tasks with an output or without one. -/

namespace Task

variable {σ τ α : Type} {b : Bool}

/-- **A task that has an output whenever it succeeds,** or never has one; `b` tells which. -/
def Gives (b : Bool) (t : Task σ (Option Json)) : Prop :=
  ∀ s log out s', t.Runs s log (.ok out) s' → out.isSome = b

namespace Gives

/-- A value that stands fixed is an output or none. -/
theorem pure {out : Option Json} (h : out.isSome = b) :
    Gives b (Pure.pure out : Task σ (Option Json)) := by
  intro s log out' s' hruns
  cases (runs_pure_iff.mp hruns).2.1
  exact h

/-- A failure has neither, so it may stand where either is asked for. -/
theorem throw (e : Failure) : Gives b (MonadExcept.throw e : Task σ (Option Json)) := by
  intro s log out s' hruns
  cases (runs_throw_iff.mp hruns).2.1

/-- Only what comes last decides. -/
theorem bind {t : Task σ α} {f : α → Task σ (Option Json)} (hf : ∀ a, Gives b (f a)) :
    Gives b (t >>= f) := by
  intro s log out s' hruns
  obtain ⟨e, he, -⟩ | ⟨_, _, a, _, -, -, hrest⟩ := (runs_bind_iff _ _).mp hruns
  · cases he
  · exact hf a _ _ _ _ hrest

/-- To see only a part of the state does not change what comes out. -/
theorem focus {t : Task σ (Option Json)} (h : Gives b t) (get : τ → σ) (put : σ → τ → τ) :
    Gives b (t.focus get put) := by
  intro s log out s' hruns
  obtain ⟨m, hm, -⟩ := runs_focus_iff.mp hruns
  exact h _ _ _ _ hm

end Gives

end Task

open SuiteRunner.Task (Gives)

/-! ## §2. Actions. -/

/-- Whether a use of a table has an output. -/
def Table.Use.gives : Table.Use → Bool
  | .getCell .. | .getRowCount | .getColumn _ | .findRow .. | .filter .. => true
  | _ => false

/-- **Of the uses of a table** those that look something up have an output, and expectations have
none. -/
theorem Table.Use.gives_perform (table : String) (use : Table.Use) :
    Gives use.gives (use.perform table) := by
  cases use with
  | getCell row column => exact .bind fun _ => .pure rfl
  | clickCell row column => exact .bind fun _ => .bind fun _ => .pure rfl
  | assertCell expected row column =>
    apply Gives.bind
    intro v
    dsimp only
    split
    · exact .pure rfl
    · exact .throw _
  | getRowCount => exact .bind fun _ => .pure rfl
  | assertRowCount expected =>
    apply Gives.bind
    intro actual
    split
    · exact .pure rfl
    · exact .throw _
  | getColumn column => exact .bind fun _ => .bind fun _ => .pure rfl
  | findRow wanted column =>
    refine .bind fun c => .bind fun texts => ?_
    cases texts.findIdx? fun t => Text.trim t == Text.trim wanted with
    | some i => exact .pure rfl
    | none => exact .throw _
  | sortBy column descending => exact .bind fun _ => .bind fun _ => .pure rfl
  | filter wanted column => exact .bind fun _ => .bind fun _ => .pure rfl
  | assertSorted column descending => exact .bind fun _ => .bind fun _ => .bind fun _ => .pure rfl

namespace Action

/-- Whether an action on the session has an output; that of custom code is not one of the
session. -/
def gives : Action → Bool
  | .onPage output .. => output
  | .onElement output .. => output
  | .useTable _ use => use.gives
  | _ => false

theorem gives_silent {t : Task Session Unit} : Gives false (silent t) :=
  .bind fun _ => .pure rfl

theorem gives_withOutput (output : Bool) (t : Task Session Json) :
    Gives output (withOutput output t) := by
  apply Gives.bind
  intro v
  cases output with
  | true => exact .pure rfl
  | false => exact .pure rfl

/-- **An action on the session has an output** exactly if its kind has one. -/
theorem gives_performOnSession (setup : UiSetup) (a : Action) :
    Gives a.gives (a.performOnSession setup) := by
  cases a with
  | onPage output method args => exact gives_withOutput output _
  | onElement output selector method args => exact gives_withOutput output _
  | onKeyboard method args => exact gives_withOutput false _
  | useTable table use => exact use.gives_perform table
  | refuse f => exact .throw f
  | screenshot name => exact .bind fun _ => .pure rfl
  | customStep call => exact .pure rfl
  | customCode => exact .pure rfl
  | _ => exact gives_silent

/-- What is made of a step, if it can be made, has an output or has none, as `gives` tells of it. -/
def Makes {α : Type} (gives : α → Bool) (b : Bool) (made : Except Failure α) : Prop :=
  ∀ a, made = .ok a → gives a = b

namespace Makes

variable {α β : Type} {gives : α → Bool} {b : Bool}

/-- An action that is made is of the kind that is asked for; nothing is asked of a failure. -/
theorem ok {a : α} (h : gives a = b) : Makes gives b (.ok a) := by
  intro _ hmade
  cases hmade
  exact h

/-- Operands do not decide it. -/
theorem bind {x : Except Failure β} {f : β → Except Failure α} (hf : ∀ v, Makes gives b (f v)) :
    Makes gives b (x >>= f) := by
  intro a hmade
  obtain ⟨v, -, hrest⟩ := bind_eq_ok_iff.mp hmade
  exact hf v a hrest

variable (s : Step) (method : String) (args : List Json)

theorem page : Makes Action.gives false (Action.page method args) := .ok rfl

theorem element : Makes Action.gives false (Action.element s method args) := .bind fun _ => .ok rfl

theorem elementWith (members : List (String × Json)) :
    Makes Action.gives false (Action.elementWith s method args members) := .bind fun _ => .ok rfl

/-- A question to an element has an output. -/
theorem queryElement : Makes Action.gives true (Action.queryElement s method args) :=
  .bind fun _ => .ok rfl

/-- An expectation of an element has none, denied or not. -/
theorem expectElement (negated : Bool) :
    Makes Action.gives false (Action.expectElement s negated method args) :=
  .bind fun _ => .ok rfl

/-- A table has an output if the use that is made of it has one. -/
theorem useTable {use : Except Failure Table.Use} (h : Makes Table.Use.gives b use) :
    Makes Action.gives b (do
      let table ← s.selector
      let use ← use
      return .useTable table use) := by
  refine .bind fun table a hmade => ?_
  obtain ⟨use, huse, hrest⟩ := bind_eq_ok_iff.mp hmade
  cases hrest
  exact h use huse

end Makes

/-- **The action of a keyword has an output exactly if the keyword has a marker.** -/
theorem makes_ofStep (base : String) {k : Keyword} (s : Step) (hk : isCustom k = false) :
    Makes Action.gives k.marker?.isSome (ofStep base k s) := by
  -- keywords of a family make their actions in one way, each from as many operands as it needs
  cases k with
  | openBrowser | closeBrowser | newPage | openNewTab | closePage | closeTab | screenshot
  | getTitle | getUrl | switchToPopup | switchToMainTab | getAlertText | switchToFrame =>
    exact .ok rfl
  | waitForTimeout | assertUrl | assertTitle | switchToTab | assertEquals | assertNotEquals
  | assertContains | assertGreaterThan | assertLessThan => exact .bind fun _ => .ok rfl
  | reload | goBack | goForward | waitForLoadState | acceptDialog | dismissDialog =>
    exact .page _ _
  | setViewportSize | goto | waitForUrl => exact .bind fun _ => .page _ _
  | click | dblClick | clear | check | uncheck | hover | focus | blur | scrollIntoView | tap =>
    exact .element s _ _
  | fill | selectOption | dragAndDrop | uploadFile => exact .bind fun _ => .element s _ _
  | rightClick | waitForElement | waitForElementHidden => exact .elementWith s _ _ _
  | typeText => exact .bind fun _ => .elementWith s _ _ _
  | press =>
    -- a key goes to an element or to the keyboard
    refine .bind fun key => ?_
    by_cases hlocator : s.locator.isSome
    · rw [if_pos hlocator]
      exact .element s _ _
    · rw [if_neg hlocator]
      exact .ok rfl
  | getText | getValue | getCount => exact .queryElement s _ _
  | getAttribute => exact .bind fun _ => .queryElement s _ _
  | assertVisible | assertHidden | assertEnabled | assertDisabled | assertChecked | assertNotChecked
  | assertFocused => exact .expectElement s _ _ _
  | assertText | assertContainsText | assertValue | assertCount =>
    exact .bind fun _ => .expectElement s _ _ _
  | assertAttribute => exact .bind fun _ => .bind fun _ => .expectElement s _ _ _
  | tableGetRowCount => exact .useTable s (.ok rfl)
  | tableAssertRowCount | tableGetColumn | tableSortBy | tableAssertSorted =>
    exact .useTable s (.bind fun _ => .ok rfl)
  | tableGetCell | tableClickCell | tableFindRow | tableFilter =>
    exact .useTable s (.bind fun _ => .bind fun _ => .ok rfl)
  | tableAssertCell => exact .useTable s (.bind fun _ => .bind fun _ => .bind fun _ => .ok rfl)
  | customStep | customCode => cases hk

end Action

namespace Ui

/-- **A built-in keyword has an output exactly if it has a marker.** -/
theorem keyword_gives (setup : UiSetup) (base : String) {k : Keyword} (step : Step)
    (hk : Action.isCustom k = false) : Gives k.marker?.isSome (keyword setup base k step) := by
  intro g log out g' hruns
  cases haction : Action.ofStep base k step with
  | error e =>
    obtain ⟨_, -, -, hr, -⟩ | ⟨a, hok, -⟩ := Task.runs_ofExcept_bind_iff.mp hruns
    · cases hr
    · rw [haction] at hok
      cases hok
  | ok a =>
    rw [keyword_eq_onSession haction hk] at hruns
    rw [← Action.makes_ofStep base step hk a haction]
    exact (Action.gives_performOnSession setup a).focus _ _ _ _ _ _ hruns

end Ui

/-! ## §3. What is written of an output. -/

open Store (Updated Remembers wrote_set)

/-- The entries that ask for an output by its marker, each with the slot of its name in a scope. -/
def entryWrites (o : Owner) (marker : Option String) (output : Json) (scope : Scope)
    (entries : List (String × String)) : List (Slot × String) :=
  (entries.filter fun e => marker = some e.2).map fun e =>
    (.within o scope e.1, valueText output)

/-- **What is written of an output:** its text, to the global variables of a step and then to its
local ones, for each entry whose source is the marker of the keyword. -/
def outputWrites (o : Owner) (k : Keyword) (step : Step) : Option Json → List (Slot × String)
  | none => []
  | some output => entryWrites o k.marker? output .global step.store.entries
      ++ entryWrites o k.marker? output .perCase step.localStore.entries

/-- **A directive writes** if its source is the marker of the output, and then the whole output. -/
theorem mem_entryWrites_iff {o : Owner} {marker : Option String} {output : Json} {scope : Scope}
    {entries : List (String × String)} {slot : Slot} {text : String} :
    (slot, text) ∈ entryWrites o marker output scope entries ↔
      ∃ name source, (name, source) ∈ entries ∧ marker = some source ∧
        slot = .within o scope name ∧ text = valueText output := by
  unfold entryWrites
  rw [List.mem_map]
  constructor
  · rintro ⟨⟨name, source⟩, hmem, hpair⟩
    obtain ⟨hentry, hsource⟩ := List.mem_filter.mp hmem
    obtain ⟨rfl, rfl⟩ := Prod.mk.inj hpair
    exact ⟨name, source, hentry, of_decide_eq_true hsource, rfl, rfl⟩
  · rintro ⟨name, source, hentry, hsource, rfl, rfl⟩
    exact ⟨(name, source), List.mem_filter.mpr ⟨hentry, decide_eq_true hsource⟩, rfl⟩

/-- **What is written after a step** is its output, to global variables and to those of the case,
wherever a directive has the marker of the keyword. -/
theorem mem_outputWrites_iff {o : Owner} {k : Keyword} {step : Step} {output : Option Json}
    {slot : Slot} {text : String} :
    (slot, text) ∈ outputWrites o k step output ↔
      ∃ out name source, output = some out ∧ text = valueText out ∧ k.marker? = some source ∧
        ((name, source) ∈ step.store.entries ∧ slot = .global name ∨
          (name, source) ∈ step.localStore.entries ∧ slot = .perCase o name) := by
  cases output with
  | none => simp [outputWrites]
  | some out =>
    unfold outputWrites
    rw [List.mem_append, mem_entryWrites_iff, mem_entryWrites_iff]
    constructor
    · rintro (⟨name, source, hentry, hsource, hslot, htext⟩ |
        ⟨name, source, hentry, hsource, hslot, htext⟩)
      · exact ⟨out, name, source, rfl, htext, hsource, .inl ⟨hentry, hslot⟩⟩
      · exact ⟨out, name, source, rfl, htext, hsource, .inr ⟨hentry, hslot⟩⟩
    · rintro ⟨_, name, source, hout, htext, hsource, ⟨hentry, hslot⟩ | ⟨hentry, hslot⟩⟩
      · cases hout
        exact .inl ⟨name, source, hentry, hsource, hslot, htext⟩
      · cases hout
        exact .inr ⟨name, source, hentry, hsource, hslot, htext⟩

/-- A keyword without a marker writes nothing. -/
theorem outputWrites_of_no_marker (o : Owner) {k : Keyword} (step : Step) (output : Option Json)
    (hk : k.marker? = none) : outputWrites o k step output = [] := by
  have hnone (out : Json) (scope : Scope) (entries : List (String × String)) :
      entryWrites o none out scope entries = [] := by
    unfold entryWrites
    simp
  cases output with
  | none => rfl
  | some out =>
    show entryWrites o k.marker? out _ _ ++ entryWrites o k.marker? out _ _ = _
    rw [hk, hnone, hnone]
    rfl

/-- Built-in keywords do not have the marker of custom code. -/
theorem marker_ne_result {k : Keyword} (hk : Action.isCustom k = false) :
    k.marker? ≠ some resultMarker := by
  cases k
  case customStep => cases hk
  case customCode => cases hk
  all_goals decide

/-- Without the marker of custom code a source asks for the whole output or for nothing. -/
theorem extract?_whole {marker : Option String} (h : marker ≠ some resultMarker) (source : String)
    (output : Json) :
    extract? marker source output = if marker = some source then some output else none := by
  unfold extract?
  rw [if_neg h]

/-- With a marker of its own an output is written as a whole, so the writes are those of the
directives. -/
theorem updated_storeParts {marker : Option String} (h : marker ≠ some resultMarker) (o : Owner)
    (output : Json) (scope : Scope) (entries : List (String × String)) (s : Store) :
    Updated (entryWrites o marker output scope entries) s
      (storeParts o marker output scope entries s) := by
  induction entries generalizing s with
  | nil => exact (Store.Wrote.refl s).updated
  | cons entry rest ih =>
    obtain ⟨name, source⟩ := entry
    unfold storeParts entryWrites
    rw [extract?_whole h, List.filter_cons]
    by_cases hsource : marker = some source
    · rw [if_pos hsource, if_pos (decide_eq_true hsource)]
      exact (wrote_set s o scope name (valueText output)).updated.trans (ih _)
    · rw [if_neg hsource, if_neg (by simpa using hsource)]
      exact ih s

/-- **Storing an output of a built-in keyword writes it to the variables that ask for it.** -/
theorem updated_storeOutput {k : Keyword} (hk : Action.isCustom k = false) (o : Owner) (step : Step)
    (output : Json) (s : Store) :
    Updated (outputWrites o k step (some output)) s (storeOutput o k step output s) :=
  (updated_storeParts (marker_ne_result hk) o output .global step.store.entries s).trans
    (updated_storeParts (marker_ne_result hk) o output .perCase step.localStore.entries _)

end SuiteRunner

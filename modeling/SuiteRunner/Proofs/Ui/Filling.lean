import SuiteRunner.Proofs.Locator.Texts
import SuiteRunner.Proofs.Ui.Scope

/-!
  SuiteRunner.Proofs.Ui.Filling
  ────────────────────────────────
  **A STEP IS FILLED IN ITS TEXTS ALONE, AND FILLING IT DOES NOT FAIL.**

  The parts of a step are filled one after another, each in the store that those before it left.
  All that is done is to look variables up, so each part is filled with the values that are read at
  first.  Only the locator could get in the way, for what its document became is read as a locator
  again; it cannot, as long as the numbers in it are within their bounds.

    • `Step.looks_fill` — a step is filled by look-ups, whatever becomes of its locator,
    • `Step.fillBy_of_proper` — a step with a proper locator is filled,
    • `Step.fill_texts_only` — in a store: what is filled, and what stays as it was.
-/

namespace SuiteRunner

open Store (Remembers Looks looks_inject looks_injectJson looks_injectItems)
open Template (injectBy injectJsonBy injectItemsBy injectItemsBy_eq_map)

namespace Step

/-! ## §1. Filling with fixed values. -/

/-- A locator filled by way of its document, which is read again. -/
def locatorBy (locator : Option Locator) (g : String → Option String) :
    Except Failure (Option Locator) :=
  match locator with
  | none => .ok none
  | some l => locatorOf (injectJsonBy g l.toJson)

/-- The step with its value, its options and the arguments of custom code filled, around a locator
that was filled before. -/
def filledAround (step : Step) (g : String → Option String) (locator : Option Locator) : Step :=
  { step with
    value := step.value.map (injectJsonBy g)
    options := step.options.map fun m => (m.1, injectJsonBy g m.2)
    locator := locator
    customFunction := step.customFunction.map fun c => { c with args := injectItemsBy g c.args } }

/-- A step filled with fixed values. -/
def fillBy (step : Step) (g : String → Option String) : Except Failure Step :=
  (locatorBy step.locator g).map (step.filledAround g)

/-- **Filling does not fail on a step with a proper locator:** the texts of the locator change. -/
theorem fillBy_of_proper {step : Step} (h : ∀ l, step.locator = some l → l.Proper)
    (g : String → Option String) :
    step.fillBy g =
      .ok (step.filledAround g (step.locator.map (Locator.mapTexts (injectBy g)))) := by
  unfold fillBy
  cases hlocator : step.locator with
  | none => rfl
  | some l =>
    have hread : locatorOf (injectJsonBy g l.toJson) = .ok (some (l.mapTexts (injectBy g))) := by
      unfold locatorOf
      rw [decode_injectJsonBy g (h l hlocator)]
    rw [locatorBy, hread]
    rfl

/-! ## §2. Filling by look-ups. -/

section

variable (o : Owner)

/-- A value is filled with what is read. -/
theorem looks_fillValue (value : Option Json) :
    Looks o (fillValue o value) fun g => value.map (injectJsonBy g) := by
  cases value with
  | none => exact .give none
  | some v => exact (looks_injectJson o v).map some

/-- Options are filled in their values; their names stay. -/
theorem looks_fillValues (members : List (String × Json)) :
    Looks o (fillValues o members) fun g => members.map fun m => (m.1, injectJsonBy g m.2) := by
  induction members with
  | nil => exact .give []
  | cons m rest ih =>
    exact (looks_injectJson o m.2).bind fun v => ih.map fun ms => (m.1, v) :: ms

/-- **A locator is filled with what is read,** and then read back from its document. -/
theorem looks_fillLocator (locator : Option Locator) :
    Looks o (fillLocator o locator) (locatorBy locator) := by
  cases locator with
  | none => exact .give (Except.ok none)
  | some l =>
    rw [funext (fillLocator_some o l)]
    exact (looks_injectJson o l.toJson).map locatorOf

/-- The arguments of a call are filled, and its name stays. -/
theorem looks_fillCall (call : Option CustomCall) :
    Looks o (fillCall o call) fun g =>
      call.map fun c => { c with args := injectItemsBy g c.args } := by
  cases call with
  | none => exact .give none
  | some c => exact (looks_injectItems o c.args).map fun args => some { c with args := args }

theorem looks_fillCallLast (step : Step) (value : Option Json) (options : List (String × Json))
    (found : Except Failure (Option Locator)) :
    Looks o (fillCallLast o step value options found) fun g => found.map fun locator =>
      { step with
        value := value
        options := options
        locator := locator
        customFunction :=
          step.customFunction.map fun c => { c with args := injectItemsBy g c.args } } := by
  cases found with
  | error f => exact .give (Except.error f)
  | ok locator =>
    exact (looks_fillCall o step.customFunction).map fun call => Except.ok
      { step with value := value, options := options, locator := locator, customFunction := call }

/-- **A step is filled with the values that are read at first,** part by part. -/
theorem looks_fill (step : Step) : Looks o (step.fill o) step.fillBy := by
  rw [funext (fill_eq o step)]
  exact (looks_fillValue o step.value).bind fun value =>
    (looks_fillValues o step.options).bind fun options =>
      (looks_fillLocator o step.locator).bind (looks_fillCallLast o step value options)

end

/-! ## §3. Filling in a store. -/

/-- **FILLING A STEP CHANGES ITS TEXTS AND NOTHING ELSE,** whatever the variables hold.  For a step
whose locator has its numbers within bounds, filling succeeds.  The value, the values of options and
the arguments of custom code are filled documents; of the locator the strategy, the value, the texts
of options and the texts of filters are filled, at any depth; all this in the store as it is before
the call.  The locator is the same beside its texts, and so is the rest of the step.  The store that
is left differs by what was looked up. -/
theorem fill_texts_only (s : Store) (o : Owner) (step : Step)
    (hproper : ∀ l, step.locator = some l → l.Proper) :
    ∃ filled s', step.fill o s = (.ok filled, s') ∧
      filled = { step with
        value := step.value.map fun v => (Store.injectJson o v s).1
        options := step.options.map fun m => (m.1, (Store.injectJson o m.2 s).1)
        locator := step.locator.map (Locator.mapTexts fun t => (s.inject o t).1)
        customFunction := step.customFunction.map fun c =>
          { c with args := c.args.map fun v => (Store.injectJson o v s).1 } } ∧
      filled.locator.map Locator.shape = step.locator.map Locator.shape ∧
      Remembers o s s' := by
  -- each part is filled with what is read in `s`, though it is filled in a later store
  have htext (t : String) : (s.inject o t).1 = injectBy (s.reads o) t :=
    (looks_inject o t).value s
  have hjson (v : Json) : (Store.injectJson o v s).1 = injectJsonBy (s.reads o) v :=
    (looks_injectJson o v).value s
  have hvalue := ((looks_fill o step).value s).trans (fillBy_of_proper hproper (s.reads o))
  refine ⟨_, (step.fill o s).2, Prod.ext hvalue rfl, ?_, ?_, (looks_fill o step).remembers s⟩
  · simp only [filledAround, htext, hjson, injectItemsBy_eq_map]
  · show (step.locator.map _).map Locator.shape = _
    rw [Option.map_map]
    exact congrArg (Option.map · step.locator) (funext (Locator.shape_mapTexts _))

/-- A value that looks like the rest of a filter stays a text, in a filter inside a filter, too. -/
theorem fill_texts_only_hostile :
    let hostile := "\"\x7d,\x7b\"type\":\"hidden"
    let s := ((Store.ofRegistry none).setGlobal "kind" "css").setGlobal "x" hostile
    let l : Locator := ⟨"\x7b\x7bkind\x7d\x7d", "\x7b\x7bx\x7d\x7d",
      { name := some "\x7b\x7bx\x7d\x7d", exact := some true, level := some 2 },
      some (.hasText "\x7b\x7bx\x7d\x7d"),
      [.has (.plain "role" "\x7b\x7bx\x7d\x7d"), .hidden],
      [.nth (-1), .filter (.hasNotText "\x7b\x7bx\x7d\x7d")], some .first⟩
    l.Proper ∧ ∃ filled s', ({ locator := some l } : Step).fill ⟨"s", "c"⟩ s = (.ok filled, s') ∧
      filled.locator = some ⟨"css", hostile,
        { name := some hostile, exact := some true, level := some 2 }, some (.hasText hostile),
        [.has (.plain "role" hostile), .hidden],
        [.nth (-1), .filter (.hasNotText hostile)], some .first⟩ := by
  intro hostile s l
  have hproper : l.Proper := by
    refine Locator.proper_of_parts ⟨?_, ?_, ?_, ?_, ?_⟩
    · simp [l, LocatorOptions.Proper]
    · simp [l, LocatorFilter.Proper]
    · simp [l, LocatorFilter.Proper, Locator.plain, Locator.Proper, LocatorOptions.Proper,
        ProperFilter, ProperFilters, ProperChain]
    · simp [l, ChainOperation.Proper, LocatorFilter.Proper, IsPosition]
    · simp [l, LocatorIndex.Proper]
  obtain ⟨filled, s', hfill, hfilled, -⟩ := fill_texts_only s ⟨"s", "c"⟩ { locator := some l }
    fun _ h => Option.some.inj h ▸ hproper
  refine ⟨hproper, filled, s', hfill, ?_⟩
  have hkind : (s.inject ⟨"s", "c"⟩ "\x7b\x7bkind\x7d\x7d").1 = "css" := by decide +kernel
  have hx : (s.inject ⟨"s", "c"⟩ "\x7b\x7bx\x7d\x7d").1 = hostile := by decide +kernel
  have hrole : (s.inject ⟨"s", "c"⟩ "role").1 = "role" := by decide +kernel
  rw [hfilled]
  simp only [l, Option.map_some, Locator.mapTexts, LocatorOptions.mapTexts, mapFilterOption,
    mapFilters, mapChain, LocatorFilter.mapTexts, ChainOperation.mapTexts, Locator.plain, hkind, hx,
    hrole, Option.map_none]

end Step

end SuiteRunner

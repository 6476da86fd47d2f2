import Mathlib.Logic.Relation
import SuiteRunner.Locator.Selector

/-!
  SuiteRunner.Proofs.Locator.Strategies
  ────────────────────────────────
  **WHICH STRATEGIES A LOCATOR NAMES, AND WHICH ONE IT FAILS ON.**

  A locator holds other locators: in its filters, in its chain and in the filters of its chain.
  `Locator.strategies` lists the strategies of all of them in the order in which the parts of the
  selector are made.  The first one that is not known decides:

    • `basePart?_eq_none_iff` — the bases of ten strategies are known,
    • `Settled.bind` — of two computations in a row the earlier unknown strategy is the failure,
    • `settled_parts` — the parts of a locator, at any depth,
    • `selector_ok_iff` — there is a selector exactly if every strategy is known.

  What a locator holds directly holds others again.  `Locator.inside` lists all of them in the order
  in which they become parts of the selector, a locator before those that it holds:

    • `Locator.sizeOf_held` — what a locator holds is smaller,
    • `mem_inside_iff` — the list has what can be reached by going from locators to held ones,
    • `strategies_eq_map` — its strategies are those that decide about the selector,
    • `selector_fails_on_first` — there is no selector exactly if one of them has an unknown
      strategy, and the failure names the first.
-/

namespace SuiteRunner

/-! ## §1. Strategies. -/

/-- The strategies that are known. -/
def knownStrategies : List String :=
  ["role", "label", "text", "placeholder", "altText", "title", "testId", "css", "xpath", "locator"]

/-- **The known strategies are those that have a base.** -/
theorem basePart?_eq_none_iff (strategy value : String) (o : LocatorOptions) :
    basePart? strategy value o = none ↔ strategy ∉ knownStrategies := by
  unfold basePart? knownStrategies
  constructor
  · intro h
    split at h
    case h_11 => simp_all
    all_goals cases h
  · intro h
    split
    case h_11 => rfl
    all_goals exact absurd (by decide) h

mutual
/-- The strategies in a locator: its own, those of its single filter, of its filters and of its
chain. -/
def Locator.strategies : Locator → List String
  | ⟨strategy, _, _, filter, filters, chain, _⟩ =>
    [strategy] ++ filterOptionStrategies filter ++ filterListStrategies filters
      ++ chainStrategies chain

/-- The strategies in a filter that may be missing. -/
def filterOptionStrategies : Option LocatorFilter → List String
  | none => []
  | some f => f.strategies

/-- The strategies in filters, in order. -/
def filterListStrategies : List LocatorFilter → List String
  | [] => []
  | f :: rest => f.strategies ++ filterListStrategies rest

/-- The strategies in a filter. -/
def LocatorFilter.strategies : LocatorFilter → List String
  | .has l | .hasNot l => l.strategies
  | .hasText _ | .hasNotText _ | .visible | .hidden => []

/-- The strategies in a chain operation. -/
def ChainOperation.strategies : ChainOperation → List String
  | .locator l => l.strategies
  | .filter f => f.strategies
  | .nth _ | .first | .last => []

/-- The strategies in a chain, in order. -/
def chainStrategies : List ChainOperation → List String
  | [] => []
  | op :: rest => op.strategies ++ chainStrategies rest
end

/-- The first strategy that is not known. -/
def firstUnknown? (strategies : List String) : Option String :=
  strategies.find? fun s => s ∉ knownStrategies

/-- None is unknown exactly if all are known. -/
theorem firstUnknown?_eq_none_iff (strategies : List String) :
    firstUnknown? strategies = none ↔ ∀ s ∈ strategies, s ∈ knownStrategies := by
  unfold firstUnknown?
  rw [List.find?_eq_none]
  simp only [decide_not, Bool.not_eq_true', decide_eq_false_iff_not,
    Classical.not_not]

/-! ## §2. Computations that fail on unknown strategies alone. -/

variable {α β : Type}

/-- **A computation on strategies is settled** if it fails on the first unknown one of them, and
else succeeds. -/
def Settled (strategies : List String) (x : Except Failure α) : Prop :=
  match firstUnknown? strategies with
  | some s => x = .error (.unknownStrategy s)
  | none => ∃ a, x = .ok a

theorem settled_ok (a : α) : Settled [] (.ok a) := ⟨a, rfl⟩

/-- **Two computations in a row:** if an earlier strategy is unknown, the first fails on it, and the
second is not reached. -/
theorem Settled.bind {ss ts : List String} {x : Except Failure α} {f : α → Except Failure β}
    (hx : Settled ss x) (hf : ∀ a, Settled ts (f a)) : Settled (ss ++ ts) (x >>= f) := by
  unfold Settled firstUnknown? at *
  rw [List.find?_append]
  cases hfirst : ss.find? fun s => s ∉ knownStrategies with
  | some s =>
    rw [hfirst] at hx
    show x >>= f = _
    rw [show x = _ from hx]
    rfl
  | none =>
    rw [hfirst] at hx
    obtain ⟨a, rfl⟩ := hx
    exact hf a

/-- A function of the result changes nothing about the strategies. -/
theorem Settled.map {ss : List String} {x : Except Failure α} (hx : Settled ss x) (f : α → β) :
    Settled ss (x.map f) := by
  unfold Settled at *
  cases hfirst : firstUnknown? ss with
  | some s =>
    rw [hfirst] at hx
    show x.map f = _
    rw [show x = _ from hx]
    rfl
  | none =>
    rw [hfirst] at hx
    obtain ⟨a, rfl⟩ := hx
    exact ⟨f a, rfl⟩

/-- A settled computation fails for no other reason than an unknown strategy, and on the first. -/
theorem Settled.error_iff {ss : List String} {x : Except Failure α} (hx : Settled ss x)
    (f : Failure) :
    x = .error f ↔ ∃ s, firstUnknown? ss = some s ∧ f = .unknownStrategy s := by
  unfold Settled at hx
  cases hfirst : firstUnknown? ss with
  | none =>
    rw [hfirst] at hx
    obtain ⟨a, rfl⟩ := hx
    constructor
    · rintro ⟨⟩
    · rintro ⟨s, ⟨⟩, -⟩
  | some s =>
    rw [hfirst] at hx
    rw [show x = _ from hx]
    constructor
    · rintro ⟨⟩
      exact ⟨s, rfl, rfl⟩
    · rintro ⟨_, ⟨⟩, rfl⟩
      rfl

/-! ## §3. Selectors. -/

/-- The base fails on the strategy of its locator, or not at all. -/
theorem settled_baseParts (strategy value : String) (o : LocatorOptions) :
    Settled [strategy] (baseParts strategy value o) := by
  unfold Settled firstUnknown? baseParts
  by_cases hknown : strategy ∈ knownStrategies
  · have hpart : basePart? strategy value o ≠ none := fun h =>
      (basePart?_eq_none_iff strategy value o).mp h hknown
    obtain ⟨part, hpart⟩ := Option.ne_none_iff_exists'.mp hpart
    rw [List.find?_cons_of_neg (by simpa using hknown), List.find?_nil, hpart]
    exact ⟨_, rfl⟩
  · rw [List.find?_cons_of_pos (by simpa using hknown),
      (basePart?_eq_none_iff strategy value o).mpr hknown]

mutual
/-- **The parts of a locator fail on the first unknown strategy in it,** at whatever depth. -/
theorem settled_parts : ∀ l : Locator, Settled l.strategies l.parts
  | ⟨strategy, value, options, filter, filters, chain, index⟩ => by
    unfold Locator.strategies Locator.parts
    rw [List.append_assoc, List.append_assoc]
    apply (settled_baseParts strategy value options).bind
    intro base
    apply (settled_filterOption filter).bind
    intro first
    apply (settled_filterList filters).bind
    intro narrowed
    exact (settled_chain chain).map _

/-- A filter that may be missing has no strategies if it is. -/
theorem settled_filterOption : ∀ filter : Option LocatorFilter,
    Settled (filterOptionStrategies filter) (filterOptionParts filter)
  | none => settled_ok []
  | some f => (settled_part f).map _

/-- Filters are made into parts in their order, so the first unknown strategy among them decides. -/
theorem settled_filterList : ∀ filters : List LocatorFilter,
    Settled (filterListStrategies filters) (filterListParts filters)
  | [] => settled_ok []
  | f :: rest => by
    apply (settled_part f).bind
    intro p
    exact (settled_filterList rest).map _

/-- Filters by text or by what can be seen have no strategies; the others have those of their
locator. -/
theorem settled_part : ∀ f : LocatorFilter, Settled f.strategies f.part
  | .hasText _ | .hasNotText _ | .visible | .hidden => settled_ok _
  | .has l | .hasNot l => (settled_parts l).map _

/-- An operation has the strategies of its locator or of its filter. -/
theorem settled_operation : ∀ op : ChainOperation, Settled op.strategies op.parts
  | .locator l => settled_parts l
  | .filter f => (settled_part f).map _
  | .nth _ | .first | .last => settled_ok _

/-- A chain is gone through in its order. -/
theorem settled_chain : ∀ chain : List ChainOperation,
    Settled (chainStrategies chain) (chainParts chain)
  | [] => settled_ok []
  | op :: rest => by
    apply (settled_operation op).bind
    intro ps
    exact (settled_chain rest).map _
end

/-- **A selector fails on the first unknown strategy of its locator,** at any depth. -/
theorem settled_selector (l : Locator) : Settled l.strategies l.selector :=
  (settled_parts l).map joinParts

/-- **There is a selector exactly if every strategy in the locator is known.** -/
theorem selector_ok_iff (l : Locator) :
    (∃ selector, l.selector = .ok selector) ↔ ∀ s ∈ l.strategies, s ∈ knownStrategies := by
  rw [← firstUnknown?_eq_none_iff]
  have hsettled := settled_selector l
  unfold Settled at hsettled
  cases hfirst : firstUnknown? l.strategies with
  | some s =>
    rw [hfirst] at hsettled
    constructor
    · rintro ⟨selector, h⟩
      rw [show l.selector = _ from hsettled] at h
      cases h
    · intro h
      cases h
  | none =>
    rw [hfirst] at hsettled
    exact ⟨fun _ => rfl, fun _ => hsettled⟩

/-! ## §4. What a locator holds directly. -/

/-- The locator that a filter holds. -/
def LocatorFilter.held? : LocatorFilter → Option Locator
  | .has l | .hasNot l => some l
  | .hasText _ | .hasNotText _ | .visible | .hidden => none

/-- The locator that a chain operation holds. -/
def ChainOperation.held? : ChainOperation → Option Locator
  | .locator l => some l
  | .filter f => f.held?
  | .nth _ | .first | .last => none

/-- **The locators that a locator holds directly,** in the order of resolution: in its single
filter, in its filters, in its chain. -/
def Locator.held (l : Locator) : List Locator :=
  (l.filter.toList ++ l.filters).filterMap LocatorFilter.held?
    ++ l.chain.filterMap ChainOperation.held?

/-- The locator of a filter is smaller than the filter. -/
theorem LocatorFilter.sizeOf_held {f : LocatorFilter} {m : Locator} (h : f.held? = some m) :
    sizeOf m < sizeOf f := by
  cases f with
  | has l | hasNot l =>
    obtain rfl : l = m := Option.some.inj h
    simp
  | hasText _ | hasNotText _ | visible | hidden => cases h

/-- The locator of an operation is smaller than the operation. -/
theorem ChainOperation.sizeOf_held {op : ChainOperation} {m : Locator} (h : op.held? = some m) :
    sizeOf m < sizeOf op := by
  cases op with
  | locator l =>
    obtain rfl : l = m := Option.some.inj h
    simp
  | filter f =>
    have hf : sizeOf m < sizeOf f := LocatorFilter.sizeOf_held h
    simp only [ChainOperation.filter.sizeOf_spec]
    omega
  | nth _ | first | last => cases h

/-- **What a locator holds is smaller than it.** -/
theorem Locator.sizeOf_held {l m : Locator} (h : m ∈ l.held) : sizeOf m < sizeOf l := by
  obtain ⟨strategy, value, options, filter, filters, chain, index⟩ := l
  simp only [Locator.mk.sizeOf_spec]
  rcases List.mem_append.mp h with h | h
  · obtain ⟨f, hf, hheld⟩ := List.mem_filterMap.mp h
    have hm := LocatorFilter.sizeOf_held hheld
    rcases List.mem_append.mp hf with hf | hf
    · obtain rfl : filter = some f := by simpa using hf
      simp only [Option.some.sizeOf_spec]
      omega
    · have hlt : sizeOf f < sizeOf filters := List.sizeOf_lt_of_mem hf
      omega
  · obtain ⟨op, hop, hheld⟩ := List.mem_filterMap.mp h
    have hm := ChainOperation.sizeOf_held hheld
    have hlt : sizeOf op < sizeOf chain := List.sizeOf_lt_of_mem hop
    omega

/-! ## §5. What is inside, at any depth. -/

/-- **The locators inside a locator, in the order of resolution:** itself, then all that is inside
the first one it holds, then all that is inside the second, and so on. -/
def Locator.inside (l : Locator) : List Locator :=
  l :: l.held.attach.flatMap fun m => m.1.inside
termination_by sizeOf l
decreasing_by exact Locator.sizeOf_held m.2

/-- A locator stands before those that it holds, and each of these before what it holds itself. -/
theorem inside_eq (l : Locator) : l.inside = l :: l.held.flatMap Locator.inside := by
  rw [Locator.inside, List.flatMap_subtype (fun _ _ => rfl), List.unattach_attach]

/-- A locator is in another at some depth: one goes from locators to held ones until it is
reached. -/
def Locator.Within (d l : Locator) : Prop := Relation.ReflTransGen (fun a b => b ∈ a.held) l d

/-- **What can be reached from a locator is listed.** -/
theorem mem_inside_iff (l d : Locator) : d ∈ l.inside ↔ d.Within l := by
  constructor
  · intro h
    induction l using Locator.inside.induct with
    | case1 l ih =>
      rw [inside_eq] at h
      rcases List.mem_cons.mp h with rfl | h
      · exact .refl
      · obtain ⟨m, hm, hd⟩ := List.mem_flatMap.mp h
        exact .head hm (ih ⟨m, hm⟩ hd)
  · intro h
    induction h using Relation.ReflTransGen.head_induction_on with
    | refl =>
      rw [inside_eq]
      exact List.mem_cons_self
    | @head a b hb _ ih =>
      rw [inside_eq]
      exact List.mem_cons_of_mem _ (List.mem_flatMap.mpr ⟨b, hb, ih⟩)

/-! ## §6. Their strategies. -/

/-- A filter has the strategies of the locator that it holds, if any. -/
theorem strategies_filter (f : LocatorFilter) :
    f.strategies = f.held?.toList.flatMap Locator.strategies := by
  cases f with
  | has l | hasNot l => exact (List.flatMap_singleton Locator.strategies l).symm
  | hasText _ | hasNotText _ | visible | hidden => rfl

/-- An operation has the strategies of the locator that it holds, if any. -/
theorem strategies_operation (op : ChainOperation) :
    op.strategies = op.held?.toList.flatMap Locator.strategies := by
  cases op with
  | locator l => exact (List.flatMap_singleton Locator.strategies l).symm
  | filter f => exact strategies_filter f
  | nth _ | first | last => rfl

/-- The strategies of filters are those of the locators that they hold, in order. -/
theorem strategies_filterList (fs : List LocatorFilter) :
    filterListStrategies fs = (fs.filterMap LocatorFilter.held?).flatMap Locator.strategies := by
  induction fs with
  | nil => rfl
  | cons f rest ih =>
    rw [filterListStrategies, strategies_filter, ih, List.filterMap_cons]
    cases f.held? with
    | none => rfl
    | some m => rw [Option.toList_some, List.flatMap_singleton, List.flatMap_cons]

/-- The strategies of a chain are those of the locators that its operations hold. -/
theorem strategies_chain (chain : List ChainOperation) :
    chainStrategies chain
      = (chain.filterMap ChainOperation.held?).flatMap Locator.strategies := by
  induction chain with
  | nil => rfl
  | cons op rest ih =>
    rw [chainStrategies, strategies_operation, ih, List.filterMap_cons]
    cases op.held? with
    | none => rfl
    | some m => rw [Option.toList_some, List.flatMap_singleton, List.flatMap_cons]

/-- The strategies in a locator are its own and those in what it holds. -/
theorem strategies_eq (l : Locator) :
    l.strategies = l.strategy :: l.held.flatMap Locator.strategies := by
  obtain ⟨strategy, value, options, filter, filters, chain, index⟩ := l
  have hfilter : filterOptionStrategies filter = filterListStrategies filter.toList := by
    cases filter with
    | none => rfl
    | some f => exact (List.append_nil f.strategies).symm
  unfold Locator.strategies Locator.held
  rw [hfilter, strategies_filterList, strategies_filterList, strategies_chain,
    List.flatMap_append, List.filterMap_append, List.flatMap_append]
  simp only [List.cons_append, List.nil_append]

/-- **The strategies in a locator are those of the locators inside it,** in the same order. -/
theorem strategies_eq_map (l : Locator) : l.strategies = l.inside.map Locator.strategy := by
  induction l using Locator.inside.induct with
  | case1 l ih =>
    have hheld : ∀ m ∈ l.held, m.strategies = m.inside.map Locator.strategy :=
      fun m hm => ih ⟨m, hm⟩
    rw [strategies_eq, inside_eq, List.map_cons, List.map_flatMap, List.flatMap_def,
      List.map_congr_left hheld, ← List.flatMap_def]

/-! ## §7. The failure. -/

/-- The first locator of a list with an unknown strategy. -/
def FirstUnknown (ls : List Locator) (d : Locator) : Prop :=
  ∃ before after, ls = before ++ d :: after ∧ d.strategy ∉ knownStrategies ∧
    ∀ b ∈ before, b.strategy ∈ knownStrategies

/-- The first unknown strategy in a list of locators is that of the first locator with an unknown
one. -/
theorem exists_firstUnknown_iff (ls : List Locator) (strategy : String) :
    firstUnknown? (ls.map Locator.strategy) = some strategy
      ↔ ∃ d, FirstUnknown ls d ∧ d.strategy = strategy := by
  unfold firstUnknown?
  rw [List.find?_map, Option.map_eq_some_iff]
  refine exists_congr fun d => and_congr_left' ?_
  rw [List.find?_eq_some_iff_append]
  unfold FirstUnknown
  simp only [Function.comp_apply, decide_eq_true_eq, Bool.not_eq_true', decide_eq_false_iff_not,
    Classical.not_not]
  constructor
  · rintro ⟨hd, before, after, heq, hbefore⟩
    exact ⟨before, after, heq, hd, hbefore⟩
  · rintro ⟨before, after, heq, hd, hbefore⟩
    exact ⟨hd, before, after, heq, hbefore⟩

/-- There is a first one exactly if there is one. -/
theorem exists_firstUnknown (ls : List Locator) :
    (∃ d, FirstUnknown ls d) ↔ ∃ d ∈ ls, d.strategy ∉ knownStrategies := by
  constructor
  · rintro ⟨d, before, after, rfl, hd, -⟩
    exact ⟨d, by simp, hd⟩
  · rintro ⟨d, hmem, hd⟩
    cases hfirst : firstUnknown? (ls.map Locator.strategy) with
    | none =>
      have hknown := (firstUnknown?_eq_none_iff _).mp hfirst
      exact absurd (hknown _ (List.mem_map_of_mem hmem)) hd
    | some strategy =>
      obtain ⟨first, hfirst, -⟩ := (exists_firstUnknown_iff ls strategy).mp hfirst
      exact ⟨first, hfirst⟩

/-- **There is no selector exactly if some locator inside, at any depth, has an unknown strategy,
and the failure names the strategy of the first one** in the order of resolution. -/
theorem selector_fails_on_first (l : Locator) :
    ((∃ f, l.selector = .error f) ↔ ∃ d : Locator, d.Within l ∧ d.strategy ∉ knownStrategies) ∧
      ∀ f, l.selector = .error f ↔
        ∃ d, FirstUnknown l.inside d ∧ f = .unknownStrategy d.strategy := by
  have hfails : ∀ f, l.selector = .error f ↔
      ∃ d, FirstUnknown l.inside d ∧ f = .unknownStrategy d.strategy := by
    intro f
    rw [(settled_selector l).error_iff f, strategies_eq_map]
    constructor
    · rintro ⟨s, hs, rfl⟩
      obtain ⟨d, hd, rfl⟩ := (exists_firstUnknown_iff _ s).mp hs
      exact ⟨d, hd, rfl⟩
    · rintro ⟨d, hd, rfl⟩
      exact ⟨d.strategy, (exists_firstUnknown_iff _ _).mpr ⟨d, hd, rfl⟩, rfl⟩
  refine ⟨?_, hfails⟩
  -- to fail is to have a first unknown strategy, so it is to have an unknown one
  calc (∃ f, l.selector = .error f)
      ↔ ∃ d, FirstUnknown l.inside d := by
        constructor
        · rintro ⟨f, hf⟩
          obtain ⟨d, hd, -⟩ := (hfails f).mp hf
          exact ⟨d, hd⟩
        · rintro ⟨d, hd⟩
          exact ⟨_, (hfails _).mpr ⟨d, hd, rfl⟩⟩
    _ ↔ ∃ d ∈ l.inside, d.strategy ∉ knownStrategies := exists_firstUnknown l.inside
    _ ↔ ∃ d : Locator, d.Within l ∧ d.strategy ∉ knownStrategies := by
        simp only [mem_inside_iff]

/-- Of two unknown strategies the one in the filter comes first. -/
example : (⟨"css", "ul", {}, some (.has (.plain "shadow" "x")), [],
      [.locator (.plain "bogus" "li")], none⟩ : Locator).selector
    = .error (.unknownStrategy "shadow") := rfl

end SuiteRunner

import SuiteRunner.Proofs.Locator.Rewriting
import SuiteRunner.Proofs.Variables.Structure

/-!
  SuiteRunner.Proofs.Locator.Texts
  ────────────────────────────────
  **A LOCATOR IS FILLED IN ITS TEXTS ALONE.**

  A locator is filled by way of its document, in which more is text than in the locator: the names
  of the fields, the tags of filters and operations and the words for indexes are texts there, too.
  None of these has placeholders, so what is filled are the texts of the locator: strategy, value,
  three of the options and the texts of filters, at any depth.

    • `Locator.mapTexts` — a locator with each of these texts changed by a function,
    • `Locator.shape_mapTexts`, `Locator.Proper.mapTexts` — all else is as it was,
    • `injectJsonBy_record` — a record is filled field by field,
    • `Locator.injectJsonBy_toJson` — filling the document is changing the texts,
    • `decode_injectJsonBy` — and what was filled is read back.
-/

namespace SuiteRunner

open Template (injectBy injectJsonBy injectItemsBy injectMembersBy)

/-! ## §1. The texts of a locator. -/

/-- Options with their three texts changed. -/
def LocatorOptions.mapTexts (f : String → String) (o : LocatorOptions) : LocatorOptions :=
  { o with name := o.name.map f, hasText := o.hasText.map f, hasNotText := o.hasNotText.map f }

mutual
/-- **A locator with each of its texts changed by a function:** the strategy, the value, the texts
of the options and those of filters, at any depth. -/
def Locator.mapTexts (f : String → String) : Locator → Locator
  | ⟨strategy, value, options, filter, filters, chain, index⟩ =>
    ⟨f strategy, f value, options.mapTexts f, mapFilterOption f filter, mapFilters f filters,
      mapChain f chain, index⟩

/-- A filter that may be missing. -/
def mapFilterOption (f : String → String) : Option LocatorFilter → Option LocatorFilter
  | none => none
  | some filter => some (filter.mapTexts f)

/-- Each filter. -/
def mapFilters (f : String → String) : List LocatorFilter → List LocatorFilter
  | [] => []
  | filter :: rest => filter.mapTexts f :: mapFilters f rest

/-- The text of a filter, or the texts of its locator. -/
def LocatorFilter.mapTexts (f : String → String) : LocatorFilter → LocatorFilter
  | .hasText v => .hasText (f v)
  | .hasNotText v => .hasNotText (f v)
  | .has l => .has (l.mapTexts f)
  | .hasNot l => .hasNot (l.mapTexts f)
  | .visible => .visible
  | .hidden => .hidden

/-- The texts of the locator or the filter of an operation. -/
def ChainOperation.mapTexts (f : String → String) : ChainOperation → ChainOperation
  | .locator l => .locator (l.mapTexts f)
  | .filter filter => .filter (filter.mapTexts f)
  | .nth n => .nth n
  | .first => .first
  | .last => .last

/-- Each operation. -/
def mapChain (f : String → String) : List ChainOperation → List ChainOperation
  | [] => []
  | op :: rest => op.mapTexts f :: mapChain f rest
end

/-- **What a locator is beside its texts:** flags, levels, positions, indexes, the kinds of filters
and operations, and how many of them there are in which order. -/
def Locator.shape (l : Locator) : Locator := l.mapTexts fun _ => ""

/-- Options changed twice are changed once by both functions in a row. -/
theorem LocatorOptions.mapTexts_mapTexts (f g : String → String) (o : LocatorOptions) :
    (o.mapTexts f).mapTexts g = o.mapTexts fun t => g (f t) := by
  simp only [LocatorOptions.mapTexts, Option.map_map, Function.comp_def]

mutual
/-- Two changes, one after the other. -/
theorem Locator.mapTexts_mapTexts (f g : String → String) :
    ∀ l : Locator, (l.mapTexts f).mapTexts g = l.mapTexts fun t => g (f t)
  | ⟨strategy, value, options, filter, filters, chain, index⟩ => by
    simp only [Locator.mapTexts, LocatorOptions.mapTexts_mapTexts, mapFilterOption_twice f g filter,
      mapFilters_twice f g filters, mapChain_twice f g chain]

/-- A filter that may be missing is changed twice if it is there. -/
theorem mapFilterOption_twice (f g : String → String) : ∀ filter : Option LocatorFilter,
    mapFilterOption g (mapFilterOption f filter) = mapFilterOption (fun t => g (f t)) filter
  | none => rfl
  | some filter => congrArg some (LocatorFilter.mapTexts_mapTexts f g filter)

/-- Filters in a list, each changed twice. -/
theorem mapFilters_twice (f g : String → String) : ∀ filters : List LocatorFilter,
    mapFilters g (mapFilters f filters) = mapFilters (fun t => g (f t)) filters
  | [] => rfl
  | filter :: rest => by
    simp only [mapFilters, LocatorFilter.mapTexts_mapTexts f g filter, mapFilters_twice f g rest]

/-- A filter changed twice, in its text or in its locator. -/
theorem LocatorFilter.mapTexts_mapTexts (f g : String → String) :
    ∀ filter : LocatorFilter, (filter.mapTexts f).mapTexts g = filter.mapTexts fun t => g (f t)
  | .hasText _ | .hasNotText _ | .visible | .hidden => rfl
  | .has l => congrArg LocatorFilter.has (Locator.mapTexts_mapTexts f g l)
  | .hasNot l => congrArg LocatorFilter.hasNot (Locator.mapTexts_mapTexts f g l)

/-- An operation changed twice. -/
theorem ChainOperation.mapTexts_mapTexts (f g : String → String) :
    ∀ op : ChainOperation, (op.mapTexts f).mapTexts g = op.mapTexts fun t => g (f t)
  | .locator l => congrArg ChainOperation.locator (Locator.mapTexts_mapTexts f g l)
  | .filter filter => congrArg ChainOperation.filter (LocatorFilter.mapTexts_mapTexts f g filter)
  | .nth _ | .first | .last => rfl

/-- A chain changed twice. -/
theorem mapChain_twice (f g : String → String) : ∀ chain : List ChainOperation,
    mapChain g (mapChain f chain) = mapChain (fun t => g (f t)) chain
  | [] => rfl
  | op :: rest => by
    simp only [mapChain, ChainOperation.mapTexts_mapTexts f g op, mapChain_twice f g rest]
end

/-- **Changing texts leaves all else as it is.** -/
theorem Locator.shape_mapTexts (f : String → String) (l : Locator) :
    (l.mapTexts f).shape = l.shape :=
  Locator.mapTexts_mapTexts f (fun _ => "") l

mutual
/-- Numbers stay within their bounds. -/
theorem Locator.Proper.mapTexts (f : String → String) :
    ∀ {l : Locator}, l.Proper → (l.mapTexts f).Proper
  | ⟨_, _, _, _, _, _, _⟩, ⟨hoptions, hfilter, hfilters, hchain, hindex⟩ =>
    ⟨hoptions, ProperFilter.mapTexts f hfilter, ProperFilters.mapTexts f hfilters,
      ProperChain.mapTexts f hchain, hindex⟩

/-- Bounds are on numbers, and a filter keeps its numbers when its texts change. -/
theorem ProperFilter.mapTexts (f : String → String) :
    ∀ {filter : Option LocatorFilter}, ProperFilter filter → ProperFilter (mapFilterOption f filter)
  | none, _ => trivial
  | some _, h => LocatorFilter.Proper.mapTexts f h

theorem ProperFilters.mapTexts (f : String → String) :
    ∀ {filters : List LocatorFilter}, ProperFilters filters → ProperFilters (mapFilters f filters)
  | [], _ => trivial
  | _ :: _, ⟨hfilter, hrest⟩ =>
    ⟨LocatorFilter.Proper.mapTexts f hfilter, ProperFilters.mapTexts f hrest⟩

/-- A filter stays proper since its locator does. -/
theorem LocatorFilter.Proper.mapTexts (f : String → String) :
    ∀ {filter : LocatorFilter}, filter.Proper → (filter.mapTexts f).Proper
  | .hasText _, _ | .hasNotText _, _ | .visible, _ | .hidden, _ => trivial
  | .has _, h => Locator.Proper.mapTexts f h
  | .hasNot _, h => Locator.Proper.mapTexts f h

/-- An operation stays proper since its locator or its filter does, and positions are kept. -/
theorem ChainOperation.Proper.mapTexts (f : String → String) :
    ∀ {op : ChainOperation}, op.Proper → (op.mapTexts f).Proper
  | .locator _, h => Locator.Proper.mapTexts f h
  | .filter _, h => LocatorFilter.Proper.mapTexts f h
  | .nth _, h => h
  | .first, _ | .last, _ => trivial

theorem ProperChain.mapTexts (f : String → String) :
    ∀ {chain : List ChainOperation}, ProperChain chain → ProperChain (mapChain f chain)
  | [], _ => trivial
  | _ :: _, ⟨hop, hrest⟩ => ⟨ChainOperation.Proper.mapTexts f hop, ProperChain.mapTexts f hrest⟩
end

/-! ## §2. Records. -/

section

variable (g : String → Option String)

/-- **A word without two braces in a row is not changed by filling.** -/
theorem injectBy_word {word : String} (h : ¬ ['\x7b', '\x7b'] <:+: word.toList) :
    injectBy g word = word :=
  (Template.literal_of_no_braces h).injectBy g

/-- **A record is filled field by field:** its keys are words, none of them twice. -/
theorem injectJsonBy_record {ms : List (String × Json)} (keys : List String)
    (hkeys : ms.map Prod.fst = keys)
    (hwords : keys.Nodup ∧ ∀ k ∈ keys, ¬ ['\x7b', '\x7b'] <:+: k.toList) :
    injectJsonBy g (.obj ms) = .obj (ms.map fun m => (m.1, injectJsonBy g m.2)) := by
  subst hkeys
  have hkey (m : String × Json) (hm : m ∈ ms) : injectBy g m.1 = m.1 :=
    injectBy_word g (hwords.2 m.1 (List.mem_map_of_mem hm))
  have hsame : (ms.map fun m => injectBy g m.1) = ms.map Prod.fst := List.map_congr_left hkey
  rw [Template.injectJsonBy_obj (hsame ▸ hwords.1), Template.injectMembersBy_eq_map]
  exact congrArg Json.obj (List.map_congr_left fun m hm => by rw [hkey m hm])

/-- A record with a tag alone stays as it is. -/
theorem injectJsonBy_tag {tag : String} (htag : ¬ ['\x7b', '\x7b'] <:+: tag.toList) :
    injectJsonBy g (.obj [("type", .str tag)]) = .obj [("type", .str tag)] := by
  rw [injectJsonBy_record g ["type"] (by rfl) (by decide)]
  show Json.obj [("type", .str (injectBy g tag))] = _
  rw [injectBy_word g htag]

/-- A record with a tag and a field is filled in the field. -/
theorem injectJsonBy_tagged {tag key : String} (v : Json)
    (hwords : key ≠ "type" ∧ ∀ w ∈ [tag, key], ¬ ['\x7b', '\x7b'] <:+: w.toList) :
    injectJsonBy g (.obj [("type", .str tag), (key, v)])
      = .obj [("type", .str tag), (key, injectJsonBy g v)] := by
  obtain ⟨hne, hwords⟩ := hwords
  have hkeys : ["type", key].Nodup := by simpa using hne.symm
  have hkey : ∀ k ∈ ["type", key], ¬ ['\x7b', '\x7b'] <:+: k.toList :=
    List.forall_mem_cons.mpr ⟨by decide, (List.forall_mem_cons.mp hwords).2⟩
  rw [injectJsonBy_record g ["type", key] (by rfl) ⟨hkeys, hkey⟩]
  show Json.obj [("type", .str (injectBy g tag)), (key, injectJsonBy g v)] = _
  rw [injectBy_word g (hwords tag List.mem_cons_self)]

/-! ## §3. Documents of locators. -/

/-- A text that may be missing is filled if it is there. -/
theorem injectJsonBy_optionalText (t? : Option String) :
    injectJsonBy g (optionalText t?) = optionalText (t?.map (injectBy g)) := by
  cases t? <;> rfl

theorem injectJsonBy_optionalBool (b? : Option Bool) :
    injectJsonBy g (optionalBool b?) = optionalBool b? := by
  cases b? <;> rfl

/-- A level is a number and is not filled. -/
theorem injectJsonBy_level (n? : Option Nat) :
    injectJsonBy g (Json.ofOption Json.ofNat n?) = Json.ofOption Json.ofNat n? := by
  cases n? <;> rfl

/-- The words for the first and the last element have no placeholders. -/
theorem injectJsonBy_index (i? : Option LocatorIndex) :
    injectJsonBy g (Json.ofOption LocatorIndex.toJson i?)
      = Json.ofOption LocatorIndex.toJson i? := by
  cases i? with
  | none => rfl
  | some i =>
    cases i with
    | position n => rfl
    | first => exact congrArg Json.str (injectBy_word g (by decide +kernel))
    | last => exact congrArg Json.str (injectBy_word g (by decide))

/-- **Options are filled in their three texts.** -/
theorem LocatorOptions.injectJsonBy_toJson (o : LocatorOptions) :
    injectJsonBy g o.toJson = (o.mapTexts (injectBy g)).toJson := by
  unfold LocatorOptions.toJson
  rw [injectJsonBy_record g ["name", "exact", "checked", "disabled", "expanded", "pressed",
    "selected", "includeHidden", "level", "hasText", "hasNotText"] (by rfl) (by decide +kernel)]
  simp only [List.map_cons, List.map_nil, injectJsonBy_optionalText, injectJsonBy_optionalBool,
    injectJsonBy_level]
  rfl

mutual
/-- **Filling the document of a locator is changing the texts of the locator.** -/
theorem Locator.injectJsonBy_toJson :
    ∀ l : Locator, injectJsonBy g l.toJson = (l.mapTexts (injectBy g)).toJson
  | ⟨strategy, value, options, filter, filters, chain, index⟩ => by
    -- the names of the fields are no texts of the locator, and stay
    rw [Locator.toJson, injectJsonBy_record g ["strategy", "value", "options", "filter", "filters",
      "chain", "index"] (by rfl) (by decide +kernel)]
    simp only [List.map_cons, List.map_nil, injectJsonBy, injectJsonBy_index,
      LocatorOptions.injectJsonBy_toJson, injectJsonBy_filterOption filter,
      injectItemsBy_filters filters, injectItemsBy_chain chain]
    rfl

/-- Filling goes through a filter that may be missing. -/
theorem injectJsonBy_filterOption : ∀ filter : Option LocatorFilter,
    injectJsonBy g (filterOptionToJson filter)
      = filterOptionToJson (mapFilterOption (injectBy g) filter)
  | none => rfl
  | some filter => LocatorFilter.injectJsonBy_toJson filter

/-- Filling goes through filters one after another. -/
theorem injectItemsBy_filters : ∀ filters : List LocatorFilter,
    injectItemsBy g (filtersToJson filters) = filtersToJson (mapFilters (injectBy g) filters)
  | [] => rfl
  | filter :: rest => by
    simp only [filtersToJson, injectItemsBy, mapFilters, LocatorFilter.injectJsonBy_toJson filter,
      injectItemsBy_filters rest]

/-- A filter is an object with one member; its tag has no placeholder, so only what is under it is
filled. -/
theorem LocatorFilter.injectJsonBy_toJson :
    ∀ filter : LocatorFilter, injectJsonBy g filter.toJson = (filter.mapTexts (injectBy g)).toJson
  | .hasText v => injectJsonBy_tagged g (.str v) (by decide +kernel)
  | .hasNotText v => injectJsonBy_tagged g (.str v) (by decide +kernel)
  | .has l => by
    rw [LocatorFilter.toJson, injectJsonBy_tagged g _ (by decide +kernel),
      Locator.injectJsonBy_toJson l]
    rfl
  | .hasNot l => by
    rw [LocatorFilter.toJson, injectJsonBy_tagged g _ (by decide +kernel),
      Locator.injectJsonBy_toJson l]
    rfl
  | .visible => injectJsonBy_tag g (by decide +kernel)
  | .hidden => injectJsonBy_tag g (by decide +kernel)

/-- An operation is tagged as a filter is. -/
theorem ChainOperation.injectJsonBy_toJson :
    ∀ op : ChainOperation, injectJsonBy g op.toJson = (op.mapTexts (injectBy g)).toJson
  | .locator l => by
    rw [ChainOperation.toJson, injectJsonBy_tagged g _ (by decide +kernel),
      Locator.injectJsonBy_toJson l]
    rfl
  | .filter filter => by
    rw [ChainOperation.toJson, injectJsonBy_tagged g _ (by decide +kernel),
      LocatorFilter.injectJsonBy_toJson filter]
    rfl
  | .nth n => injectJsonBy_tagged g (Json.ofInt n) (by decide)
  | .first => injectJsonBy_tag g (by decide)
  | .last => injectJsonBy_tag g (by decide)

/-- Filling goes through the operations of a chain one after another. -/
theorem injectItemsBy_chain : ∀ chain : List ChainOperation,
    injectItemsBy g (chainToJson chain) = chainToJson (mapChain (injectBy g) chain)
  | [] => rfl
  | op :: rest => by
    simp only [chainToJson, injectItemsBy, mapChain, ChainOperation.injectJsonBy_toJson op,
      injectItemsBy_chain rest]
end

/-- **What was filled is read back,** as the locator with its texts filled. -/
theorem decode_injectJsonBy {l : Locator} (h : l.Proper) :
    Decode.ofJson Locator.decode (injectJsonBy g l.toJson) = .ok (l.mapTexts (injectBy g)) := by
  rw [Locator.injectJsonBy_toJson]
  exact Locator.readsBack (h.mapTexts _) _ ⟨by decide, rfl⟩

end

end SuiteRunner

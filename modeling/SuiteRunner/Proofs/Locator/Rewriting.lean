import SuiteRunner.Proofs.Json.Values

/-!
  SuiteRunner.Proofs.Locator.Rewriting
  ────────────────────────────────
  **A LOCATOR THAT WAS READ IS READ BACK FROM WHAT IS WRITTEN OF IT.**

  Numbers in locators have bounds: levels are natural numbers of 32 bits, positions are integers of
  64 bits.  A locator in which all numbers are within their bounds, at any depth of its filters and
  chains, is proper.

    • `yields_locator` — only proper locators are read,
    • `Locator.readsBack` — every proper locator is read back.

  Readers of locators count down from the height of the document.  Both results are by induction:
  the first on that count, the second on the locator, for every count that the document allows.
-/

namespace SuiteRunner

open Decode

/-! ## §1. Proper locators. -/

/-- An integer of 64 bits. -/
def IsPosition (n : Int) : Prop := -0x8000000000000000 ≤ n ∧ n ≤ 0x7fffffffffffffff

/-- Options with a level of 32 bits. -/
def LocatorOptions.Proper (o : LocatorOptions) : Prop := ∀ n, o.level = some n → n ≤ 0xffffffff

/-- An index of 64 bits, or a word. -/
def LocatorIndex.Proper : LocatorIndex → Prop
  | .position n => IsPosition n
  | _ => True

mutual
/-- A locator with all numbers within their bounds. -/
def Locator.Proper : Locator → Prop
  | ⟨_, _, options, filter, filters, chain, index⟩ =>
    options.Proper ∧ ProperFilter filter ∧ ProperFilters filters ∧ ProperChain chain ∧
      ∀ i, index = some i → i.Proper

/-- A filter that may be missing is proper if it is there. -/
def ProperFilter : Option LocatorFilter → Prop
  | none => True
  | some f => f.Proper

/-- All filters are proper. -/
def ProperFilters : List LocatorFilter → Prop
  | [] => True
  | f :: rest => f.Proper ∧ ProperFilters rest

/-- A filter with a proper locator. -/
def LocatorFilter.Proper : LocatorFilter → Prop
  | .has l => l.Proper
  | .hasNot l => l.Proper
  | _ => True

/-- An operation with a proper locator, filter or position. -/
def ChainOperation.Proper : ChainOperation → Prop
  | .locator l => l.Proper
  | .filter f => f.Proper
  | .nth n => IsPosition n
  | _ => True

/-- All operations are proper. -/
def ProperChain : List ChainOperation → Prop
  | [] => True
  | op :: rest => op.Proper ∧ ProperChain rest
end

/-- To be proper is one condition for each filter, here for one that may be missing. -/
theorem properFilter_iff {f? : Option LocatorFilter} :
    ProperFilter f? ↔ ∀ f, f? = some f → f.Proper := by
  cases f? with
  | none => simp [ProperFilter]
  | some f =>
    show f.Proper ↔ _
    simp

/-- A list of filters is proper if each of them is. -/
theorem properFilters_iff {fs : List LocatorFilter} :
    ProperFilters fs ↔ ∀ f ∈ fs, f.Proper := by
  induction fs with
  | nil => exact ⟨fun _ _ h => absurd h List.not_mem_nil, fun _ => trivial⟩
  | cons f fs ih =>
    show f.Proper ∧ ProperFilters fs ↔ _
    rw [ih, List.forall_mem_cons]

/-- A chain is proper if each of its operations is. -/
theorem properChain_iff {ops : List ChainOperation} :
    ProperChain ops ↔ ∀ op ∈ ops, op.Proper := by
  induction ops with
  | nil => exact ⟨fun _ _ h => absurd h List.not_mem_nil, fun _ => trivial⟩
  | cons op ops ih =>
    show op.Proper ∧ ProperChain ops ↔ _
    rw [ih, List.forall_mem_cons]

/-- The parts of a locator are proper. -/
structure Locator.ProperParts (l : Locator) : Prop where
  options : l.options.Proper
  filter : ∀ f, l.filter = some f → f.Proper
  filters : ∀ f ∈ l.filters, f.Proper
  chain : ∀ op ∈ l.chain, op.Proper
  index : ∀ i, l.index = some i → i.Proper

/-- A locator of proper parts is proper. -/
theorem Locator.proper_of_parts {l : Locator} (h : l.ProperParts) : l.Proper := by
  obtain ⟨strategy, value, options, filter, filters, chain, index⟩ := l
  exact ⟨h.options, properFilter_iff.mpr h.filter, properFilters_iff.mpr h.filters,
    properChain_iff.mpr h.chain, h.index⟩

/-! ## §2. What is read is proper. -/

/-- What is read as options has a level of 32 bits. -/
theorem yields_locatorOptions : Yields LocatorOptions.decode LocatorOptions.Proper := by
  apply yields_record
  · intro n h
    cases h
  · -- of all fields only the level has a bound
    unfold LocatorOptions.fields
    refine keeps_cons (keeps_other_may fun _ _ h => h) ?_
    refine keeps_cons (keeps_other_may fun _ _ h => h) ?_
    refine keeps_cons (keeps_other_may fun _ _ h => h) ?_
    refine keeps_cons (keeps_other_may fun _ _ h => h) ?_
    refine keeps_cons (keeps_other_may fun _ _ h => h) ?_
    refine keeps_cons (keeps_other_may fun _ _ h => h) ?_
    refine keeps_cons (keeps_other_may fun _ _ h => h) ?_
    refine keeps_cons (keeps_other_may fun _ _ h => h) ?_
    refine keeps_cons (keeps_may (yields_optional yields_nat32) fun _ _ ha _ => ha) ?_
    refine keeps_cons (keeps_other_may fun _ _ h => h) ?_
    exact keeps_cons (keeps_other_may fun _ _ h => h) keeps_nil

/-- What is read as a position has 64 bits. -/
theorem yields_locatorIndex : Yields LocatorIndex.decode LocatorIndex.Proper := by
  -- no word stands for a position
  have hwords : ∀ s i, LocatorIndex.words.lookup s = some i → i.Proper := by
    intro s i h
    have hi : i ∈ LocatorIndex.words.map Prod.snd := by
      obtain ⟨before, after, hlist, -⟩ := List.lookup_eq_some_iff.mp h
      rw [hlist]
      simp
    simp only [LocatorIndex.words, List.map_cons, List.map_nil, List.mem_cons, List.not_mem_nil,
      or_false] at hi
    obtain rfl | rfl := hi
    · trivial
    · trivial
  intro p r i h
  obtain ⟨_, -, h⟩ := bind_eq_ok_iff.mp h
  split at h
  · next n hn =>
    cases h
    exact yields_int64 _ _ n hn
  · split at h
    · next i hi =>
      cases h
      exact yields_choice hwords _ _ i hi
    · cases h

/-- A record with one field has whatever the reader of that field gives. -/
theorem yields_oneField {α : Type} {type key : String} {d : Decoder α} {Q : α → Prop}
    (hd : Yields d Q) {b : Body} {a : α} (h : oneField type key d b = .ok a) : Q a := by
  obtain ⟨a?, ha, h⟩ := bind_eq_ok_iff.mp h
  have hfield : (must key d fun a (_ : Option α) => some a).Keeps
      fun a? => ∀ a, a? = some a → Q a :=
    keeps_must hd fun a _ ha _ b hb => by
      cases hb
      exact ha
  have hall : ∀ a, a? = some a → Q a :=
    yields_bodyFields (fun _ h => by cases h) (keeps_cons hfield keeps_nil) ha
  split at h
  · cases h
    exact hall a rfl
  · cases h

/-- The body of a filter gives a proper filter if its locator is proper. -/
theorem proper_filter_ofTag {d : Decoder Locator} (hd : Yields d Locator.Proper) {t : String}
    {b : Body} {f : LocatorFilter} (h : LocatorFilter.ofTag d t b = .ok f) : f.Proper := by
  unfold LocatorFilter.ofTag at h
  dsimp only at h
  split at h
  all_goals
    obtain ⟨a, ha, rfl⟩ := map_eq_ok_iff.mp h
  · trivial
  · trivial
  · exact yields_oneField hd ha
  · exact yields_oneField hd ha
  · trivial
  · trivial

/-- The body of a chain operation yields a proper operation. -/
theorem proper_operation_ofTag {d : Decoder Locator} {e : Decoder LocatorFilter}
    (hd : Yields d Locator.Proper) (he : Yields e LocatorFilter.Proper) {t : String} {b : Body}
    {op : ChainOperation} (h : ChainOperation.ofTag d e t b = .ok op) : op.Proper := by
  unfold ChainOperation.ofTag at h
  dsimp only at h
  split at h
  all_goals
    obtain ⟨a, ha, rfl⟩ := map_eq_ok_iff.mp h
  · exact yields_oneField hd ha
  · exact yields_oneField he ha
  · exact yields_oneField yields_int64 ha
  · trivial
  · trivial

/-- A locator whose filters and operations are proper. -/
theorem keeps_locatorFields {filter : Decoder LocatorFilter} {chain : Decoder ChainOperation}
    (hfilter : Yields filter LocatorFilter.Proper) (hchain : Yields chain ChainOperation.Proper) :
    ∀ f ∈ Locator.fields filter chain, f.Keeps Locator.ProperParts := by
  unfold Locator.fields
  refine keeps_cons (keeps_other_must fun _ _ h => { h with }) ?_
  refine keeps_cons (keeps_other_may fun _ _ h => { h with }) ?_
  refine keeps_cons (keeps_may yields_locatorOptions fun _ _ ha h => { h with options := ha }) ?_
  refine keeps_cons (keeps_may (yields_optional hfilter) fun _ _ ha h =>
    { h with filter := ha }) ?_
  refine keeps_cons (keeps_may (yields_list hfilter) fun _ _ ha h => { h with filters := ha }) ?_
  refine keeps_cons (keeps_may (yields_list hchain) fun _ _ ha h => { h with chain := ha }) ?_
  exact keeps_cons (keeps_may (yields_optional yields_locatorIndex) fun _ _ ha h =>
    { h with index := ha }) keeps_nil

theorem properParts_default : (default : Locator).ProperParts where
  options n h := by cases h
  filter f h := by cases h
  filters f h := absurd h List.not_mem_nil
  chain op h := absurd h List.not_mem_nil
  index i h := by cases h

/-- Readers of all counts yield proper values. -/
theorem yields_upTo (n : Nat) :
    Yields (Locator.decodeUpTo n) Locator.Proper ∧
    Yields (LocatorFilter.decodeUpTo n) LocatorFilter.Proper ∧
    Yields (ChainOperation.decodeUpTo n) ChainOperation.Proper := by
  induction n with
  | zero =>
    refine ⟨?_, ?_, ?_⟩ <;>
      · intro p r a h
        cases h
  | succ n ih =>
    obtain ⟨hlocator, hfilter, hchain⟩ := ih
    refine ⟨?_, ?_, ?_⟩
    · intro p r l h
      exact Locator.proper_of_parts (yields_record "struct LocatorDefinition" properParts_default
        (keeps_locatorFields hfilter hchain) p r l h)
    · exact yields_tagged fun _ _ _ h => proper_filter_ofTag hlocator h
    · exact yields_tagged fun _ _ _ h => proper_operation_ofTag hlocator hfilter h

/-- **Only proper locators are read.** -/
theorem yields_locator : Yields Locator.decode Locator.Proper :=
  fun p r l h => (yields_upTo (r.height + 1)).1 p r l h

/-! ## §3. Proper locators are read back. -/

/-- **Options that are proper are read back.** -/
theorem LocatorOptions.readsBack {o : LocatorOptions} (h : o.Proper) :
    ReadsBack LocatorOptions.decode LocatorOptions.toJson o := by
  have hbool (b : Option Bool) : ReadsBack (optional boolean) optionalBool b :=
    readsBack_optional fun b _ => ⟨readsBack_boolean b, by simp⟩
  have hlevel : ReadsBack (optional nat32) (Json.ofOption Json.ofNat) o.level :=
    readsBack_optional fun n hn => ⟨readsBack_nat32 (h n hn), by simp [Json.ofNat]⟩
  intro p hp
  apply record_written "struct LocatorOptions" hp (by decide) rfl
  unfold LocatorOptions.fields
  refine readInOrder_may (readsBack_optional_text o.name) hp ?_
  refine readInOrder_may (hbool o.exact) hp ?_
  refine readInOrder_may (hbool o.checked) hp ?_
  refine readInOrder_may (hbool o.disabled) hp ?_
  refine readInOrder_may (hbool o.expanded) hp ?_
  refine readInOrder_may (hbool o.pressed) hp ?_
  refine readInOrder_may (hbool o.selected) hp ?_
  refine readInOrder_may (hbool o.includeHidden) hp ?_
  refine readInOrder_may hlevel hp ?_
  refine readInOrder_may (readsBack_optional_text o.hasText) hp ?_
  exact readInOrder_may (readsBack_optional_text o.hasNotText) hp rfl

/-- An index is read back, be it a word or a position within its bounds. -/
theorem LocatorIndex.readsBack {i : LocatorIndex} (h : i.Proper) :
    ReadsBack LocatorIndex.decode LocatorIndex.toJson i := by
  intro p hp
  unfold LocatorIndex.decode
  rw [hp.setAside, ok_bind]
  cases i with
  | position n =>
    have hread : int64 asidePlace (Reading.ofJson (LocatorIndex.toJson (.position n))) = .ok n :=
      readsBack_int64 h asidePlace atHand_asidePlace
    rw [hread]
    rfl
  | first => rfl
  | last => rfl

/-- A body with the one member that it needs. -/
theorem oneField_member {α : Type} {d : Decoder α} {key : String} {r : Reading} {a : α}
    (h : d asidePlace r = .ok a) (type : String) :
    oneField type key d (.members [(.ok key, r)]) = .ok a := by
  let field : RecordField (Option α) := must key d fun a _ => some a
  have hnames : ([field].map RecordField.name).Nodup := by simp
  have hread : readInOrder asidePlace [field] [r] none = .ok (some a) :=
    readInOrder_cons (read_must h key _ none) rfl
  have hrecord : recordOfMembers [field] none asidePlace [(.ok key, r)] .closed = .ok (some a) :=
    recordOfMembers_inOrder hnames rfl hread
  show (recordOfMembers [field] none asidePlace [(.ok key, r)] .closed >>= _) = _
  rw [hrecord]
  rfl

theorem readsBack_indexOption {i? : Option LocatorIndex} (h : ∀ i, i? = some i → i.Proper) :
    ReadsBack (optional LocatorIndex.decode) (Json.ofOption LocatorIndex.toJson) i? := by
  apply readsBack_optional
  intro i hi
  refine ⟨LocatorIndex.readsBack (h i hi), ?_⟩
  cases i <;> simp [LocatorIndex.toJson, Json.ofInt]

/-- What a list of readings gives, the list of the document gives. -/
theorem list_atHand {α : Type} {d : Decoder α} {p : Place} (hp : p.AtHand) {rs : List Reading}
    {as_ : List α} (h : items d p rs = .ok as_) : list d p (.arr rs .closed) = .ok as_ := by
  show (p.down >>= fun p => items d p rs >>= _) = _
  rw [hp.down, ok_bind, h]
  rfl

/-- A filter with one member is read as its tag says. -/
theorem LocatorFilter.decode_before {n : Nat} {p : Place} (hp : p.AtHand) {t key : String}
    (ht : t ∈ LocatorFilter.tags) (hkey : key ≠ "type") {r : Reading} {f : LocatorFilter}
    (h : LocatorFilter.ofTag (Locator.decodeUpTo n) t (.members [(.ok key, r)]) = .ok f) :
    LocatorFilter.decodeUpTo (n + 1) p
      (.obj [(.ok "type", .str (.ok t)), (.ok key, r)] .closed) = .ok f := by
  rw [LocatorFilter.decodeUpTo]
  exact (tagged_before hp ht hkey r).trans h

/-- A chain operation with one member is read by its tag and its body. -/
theorem ChainOperation.decode_before {n : Nat} {p : Place} (hp : p.AtHand) {t key : String}
    (ht : t ∈ ChainOperation.tags) (hkey : key ≠ "type") {r : Reading} {op : ChainOperation}
    (h : ChainOperation.ofTag (Locator.decodeUpTo n) (LocatorFilter.decodeUpTo n) t
      (.members [(.ok key, r)]) = .ok op) :
    ChainOperation.decodeUpTo (n + 1) p
      (.obj [(.ok "type", .str (.ok t)), (.ok key, r)] .closed) = .ok op := by
  rw [ChainOperation.decodeUpTo]
  exact (tagged_before hp ht hkey r).trans h

/-- A locator has no two fields of one name, whatever reads its filters and its chain. -/
theorem Locator.nodup_fields (filter : Decoder LocatorFilter) (chain : Decoder ChainOperation) :
    ((Locator.fields filter chain).map RecordField.name).Nodup := by
  show ["strategy", "value", "options", "filter", "filters", "chain", "index"].Nodup
  decide

/-- A document has a height, so reading it takes at least one step. -/
theorem height_pos (r : Reading) : 0 < r.height := by
  cases r <;> simp [Reading.height]

/-- What stands beside a tag is lower than the whole. -/
theorem height_of_tagged {t key : String} {v : Json} {n : Nat}
    (h : (Reading.ofJson (.obj [("type", .str t), (key, v)])).height ≤ n + 1) :
    (Reading.ofJson v).height ≤ n := by
  simp only [Reading.ofJson, Reading.ofMembers, Reading.height, Reading.membersHeight] at h
  omega

mutual
/-- **A proper locator is read back** by a reader of any count that is at least the height of the
document. -/
theorem Locator.readsBack_upTo : ∀ (l : Locator), l.Proper → ∀ (n : Nat) (p : Place), p.AtHand →
    (Reading.ofJson l.toJson).height ≤ n → Locator.decodeUpTo n p (Reading.ofJson l.toJson) = .ok l
  | ⟨strategy, value, options, filter, filters, chain, index⟩, h, n, p, hp, hn => by
    obtain ⟨hoptions, hfilter, hfilters, hchain, hindex⟩ := h
    cases n with
    | zero => exact absurd hn (Nat.not_le.mpr (height_pos _))
    | succ n =>
      -- the members are lower than the whole
      have hlower : (Reading.ofJson (filterOptionToJson filter)).height ≤ n ∧
          Reading.itemsHeight (Reading.ofItems (filtersToJson filters)) ≤ n ∧
          Reading.itemsHeight (Reading.ofItems (chainToJson chain)) ≤ n := by
        simp only [Locator.toJson, Reading.ofJson, Reading.ofMembers, Reading.height,
          Reading.membersHeight] at hn
        omega
      obtain ⟨hfilter', hfilters', hchain'⟩ := hlower
      have hfilters : list (LocatorFilter.decodeUpTo n) p
          (.arr (Reading.ofItems (filtersToJson filters)) .closed) = .ok filters :=
        list_atHand hp (readsBack_filters filters hfilters n p hp hfilters')
      have hchain : list (ChainOperation.decodeUpTo n) p
          (.arr (Reading.ofItems (chainToJson chain)) .closed) = .ok chain :=
        list_atHand hp (readsBack_chain chain hchain n p hp hchain')
      rw [Locator.toJson, Locator.decodeUpTo]
      apply record_written "struct LocatorDefinition" hp (Locator.nodup_fields _ _) rfl
      unfold Locator.fields
      refine readInOrder_must (readsBack_text strategy) hp ?_
      refine readInOrder_may (readsBack_text value) hp ?_
      refine readInOrder_may (LocatorOptions.readsBack hoptions) hp ?_
      refine readInOrder_cons (read_may
        (readsBack_filterOption filter hfilter n p hp hfilter') _ _ _) ?_
      refine readInOrder_cons (read_may hfilters _ _ _) ?_
      refine readInOrder_cons (read_may hchain _ _ _) ?_
      exact readInOrder_may (readsBack_indexOption hindex) hp rfl

/-- A filter that may be missing. -/
theorem readsBack_filterOption : ∀ (f? : Option LocatorFilter), ProperFilter f? →
    ∀ (n : Nat) (p : Place), p.AtHand → (Reading.ofJson (filterOptionToJson f?)).height ≤ n →
      optional (LocatorFilter.decodeUpTo n) p (Reading.ofJson (filterOptionToJson f?)) = .ok f?
  | none, _, _, _, _, _ => rfl
  | some f, h, n, p, hp, hn => by
    have hread : LocatorFilter.decodeUpTo n p (Reading.ofJson f.toJson) = .ok f :=
      LocatorFilter.readsBack_upTo f h n p hp hn
    have hobject : optional (LocatorFilter.decodeUpTo n) p (Reading.ofJson f.toJson)
        = (LocatorFilter.decodeUpTo n p (Reading.ofJson f.toJson)).map some := by
      -- whatever the filter, its document is an object
      cases f <;> rw [LocatorFilter.toJson] <;> rfl
    show optional (LocatorFilter.decodeUpTo n) p (Reading.ofJson f.toJson) = _
    rw [hobject, hread]
    rfl

/-- Filters are read back one after another, if the count is at least the height of each. -/
theorem readsBack_filters : ∀ (fs : List LocatorFilter), ProperFilters fs →
    ∀ (n : Nat) (p : Place), p.AtHand →
      Reading.itemsHeight (Reading.ofItems (filtersToJson fs)) ≤ n →
      items (LocatorFilter.decodeUpTo n) p (Reading.ofItems (filtersToJson fs)) = .ok fs
  | [], _, _, _, _, _ => rfl
  | f :: rest, h, n, p, hp, hn => by
    rw [filtersToJson, Reading.ofItems, Reading.itemsHeight, Nat.max_le] at hn
    have hread := LocatorFilter.readsBack_upTo f h.1 n p hp hn.1
    have hrest := readsBack_filters rest h.2 n p hp hn.2
    rw [filtersToJson, Reading.ofItems, items, hread, ok_bind, hrest]
    rfl

/-- **A filter is read back** for every count that its document allows. -/
theorem LocatorFilter.readsBack_upTo : ∀ (f : LocatorFilter), f.Proper → ∀ (n : Nat) (p : Place),
    p.AtHand → (Reading.ofJson f.toJson).height ≤ n →
      LocatorFilter.decodeUpTo n p (Reading.ofJson f.toJson) = .ok f
  | f, _, 0, _, _, hn => absurd hn (Nat.not_le.mpr (height_pos _))
  | .hasText v, _, n + 1, p, hp, _ => by
    rw [LocatorFilter.toJson]
    have hread : oneField "struct variant FilterDefinition::HasText" "value" text
        (.members [(.ok "value", .str (.ok v))]) = .ok v := oneField_member rfl _
    exact LocatorFilter.decode_before hp (by decide) (by decide)
      (congrArg (Except.map LocatorFilter.hasText) hread)
  | .hasNotText v, _, n + 1, p, hp, _ => by
    rw [LocatorFilter.toJson]
    have hread : oneField "struct variant FilterDefinition::HasNotText" "value" text
        (.members [(.ok "value", .str (.ok v))]) = .ok v := oneField_member rfl _
    exact LocatorFilter.decode_before hp (by decide) (by decide)
      (congrArg (Except.map LocatorFilter.hasNotText) hread)
  | .has l, h, n + 1, p, hp, hn => by
    rw [LocatorFilter.toJson] at hn ⊢
    -- the count goes down by one where the document goes down one level
    have hlower : (Reading.ofJson l.toJson).height ≤ n := height_of_tagged hn
    have hread := Locator.readsBack_upTo l h n asidePlace atHand_asidePlace hlower
    exact LocatorFilter.decode_before hp (by decide) (by decide)
      (congrArg (Except.map LocatorFilter.has) (oneField_member hread _))
  | .hasNot l, h, n + 1, p, hp, hn => by
    rw [LocatorFilter.toJson] at hn ⊢
    have hlower : (Reading.ofJson l.toJson).height ≤ n := height_of_tagged hn
    have hread := Locator.readsBack_upTo l h n asidePlace atHand_asidePlace hlower
    exact LocatorFilter.decode_before hp (by decide) (by decide)
      (congrArg (Except.map LocatorFilter.hasNot) (oneField_member hread _))
  | .visible, _, n + 1, p, hp, _ => by
    rw [LocatorFilter.toJson, LocatorFilter.decodeUpTo]
    exact tagged_alone hp (by decide)
  | .hidden, _, n + 1, p, hp, _ => by
    rw [LocatorFilter.toJson, LocatorFilter.decodeUpTo]
    exact tagged_alone hp (by decide)

/-- **An operation is read back** for every count that its document allows. -/
theorem ChainOperation.readsBack_upTo : ∀ (op : ChainOperation), op.Proper →
    ∀ (n : Nat) (p : Place), p.AtHand → (Reading.ofJson op.toJson).height ≤ n →
      ChainOperation.decodeUpTo n p (Reading.ofJson op.toJson) = .ok op
  | op, _, 0, _, _, hn => absurd hn (Nat.not_le.mpr (height_pos _))
  | .locator l, h, n + 1, p, hp, hn => by
    rw [ChainOperation.toJson] at hn ⊢
    have hlower : (Reading.ofJson l.toJson).height ≤ n := height_of_tagged hn
    have hread := Locator.readsBack_upTo l h n asidePlace atHand_asidePlace hlower
    exact ChainOperation.decode_before hp (by decide) (by decide)
      (congrArg (Except.map ChainOperation.locator) (oneField_member hread _))
  | .filter f, h, n + 1, p, hp, hn => by
    rw [ChainOperation.toJson] at hn ⊢
    have hlower : (Reading.ofJson f.toJson).height ≤ n := height_of_tagged hn
    have hread := LocatorFilter.readsBack_upTo f h n asidePlace atHand_asidePlace hlower
    exact ChainOperation.decode_before hp (by decide) (by decide)
      (congrArg (Except.map ChainOperation.filter) (oneField_member hread _))
  | .nth i, h, n + 1, p, hp, _ => by
    rw [ChainOperation.toJson]
    have hread := readsBack_int64 h asidePlace atHand_asidePlace
    exact ChainOperation.decode_before hp (by decide) (by decide)
      (congrArg (Except.map ChainOperation.nth) (oneField_member hread _))
  | .first, _, n + 1, p, hp, _ => by
    rw [ChainOperation.toJson, ChainOperation.decodeUpTo]
    exact tagged_alone hp (by decide)
  | .last, _, n + 1, p, hp, _ => by
    rw [ChainOperation.toJson, ChainOperation.decodeUpTo]
    exact tagged_alone hp (by decide)

/-- Operations are read back one after another. -/
theorem readsBack_chain : ∀ (ops : List ChainOperation), ProperChain ops →
    ∀ (n : Nat) (p : Place), p.AtHand →
      Reading.itemsHeight (Reading.ofItems (chainToJson ops)) ≤ n →
      items (ChainOperation.decodeUpTo n) p (Reading.ofItems (chainToJson ops)) = .ok ops
  | [], _, _, _, _, _ => rfl
  | op :: rest, h, n, p, hp, hn => by
    rw [chainToJson, Reading.ofItems, Reading.itemsHeight, Nat.max_le] at hn
    have hread := ChainOperation.readsBack_upTo op h.1 n p hp hn.1
    have hrest := readsBack_chain rest h.2 n p hp hn.2
    rw [chainToJson, Reading.ofItems, items, hread, ok_bind, hrest]
    rfl
end

/-- **A proper locator is read back.** -/
theorem Locator.readsBack {l : Locator} (h : l.Proper) :
    ReadsBack Locator.decode Locator.toJson l :=
  fun p hp => Locator.readsBack_upTo l h _ p hp (Nat.le_succ _)

end SuiteRunner

import SuiteRunner.Proofs.Variables.Maps

/-!
  SuiteRunner.Proofs.Variables.Answers
  ────────────────────────────────
  **A REGISTRY IS A PAIR OF FINITE MAPS.**

  At every moment of a run a registry answers like the two maps that follow the same operations:
  what a name stands for, what a list contains, whether there was something to delete and how much,
  and which variables are refused.  `Answers` has one field for each kind of answer.

    • `Holds.find?_entry` — the row at the address of a slot is the entry of the slot,
    • `Holds.list_entries` — a list has the entries of the maps,
    • `Holds.removeIf_count` — the removal of a scope counts its slots,
    • `Holds.after_id` — a row that stays at its address keeps its number,
    • `Holds.answers` — under the invariant every answer is that of the maps,
    • `answers_afterAll` — the registry of any run answers like the maps of the same run.
-/

namespace SuiteRunner

open Registry

section

variable {m : VariableMaps} {r : Registry}

/-! ## §1. Rows and entries. -/

/-- The row at the address of a slot is the entry of the slot. -/
theorem Holds.find?_entry (h : Holds m r) (slot : Slot) :
    (r.find? slot.key).map Row.entry = m.entry? slot := by
  unfold VariableMaps.entry?
  rw [← h.values]
  unfold valueAt
  cases hrow : r.find? slot.key with
  | none => rfl
  | some row =>
    show some (Slot.ofKey row.key, row.value) = some (slot, row.value)
    rw [find?_key hrow, Slot.ofKey_key]

/-- A row that is found is one of the rows, and each row is found at its address. -/
theorem Holds.find?_iff (h : Holds m r) {k : RowKey} {row : Row} :
    r.find? k = some row ↔ row ∈ r.rows ∧ row.key = k := by
  constructor
  · intro hrow
    exact ⟨List.mem_of_find?_eq_some hrow, find?_key hrow⟩
  · rintro ⟨hmem, rfl⟩
    have hhas : r.has row.key = true := has_iff.mpr (List.mem_map_of_mem hmem)
    obtain ⟨found, hfound⟩ := Option.isSome_iff_exists.mp hhas
    have hsame : found = row :=
      List.inj_on_of_nodup_map h.apart (List.mem_of_find?_eq_some hfound) hmem (find?_key hfound)
    rw [hfound, hsame]

/-- A row is the entry of its slot. -/
theorem Holds.valueOf_row (h : Holds m r) {row : Row} (hrow : row ∈ r.rows) :
    m.valueOf (Slot.ofKey row.key) = some row.value := by
  obtain ⟨slot, -, hkey⟩ := h.slotted row.key (List.mem_map_of_mem hrow)
  have hfound : r.find? slot.key = some row := h.find?_iff.mpr ⟨hrow, hkey⟩
  rw [hkey, Slot.ofKey_key, ← h.values]
  unfold valueAt
  rw [hfound]
  rfl

/-- Each entry of the maps is that of a row. -/
theorem Holds.row_of_entry (h : Holds m r) {slot : Slot} {value : String}
    (hvalue : m.valueOf slot = some value) :
    ∃ row ∈ r.rows, row.entry = (slot, value) := by
  have hentry := h.find?_entry slot
  unfold VariableMaps.entry? at hentry
  rw [hvalue] at hentry
  obtain ⟨row, hrow, hslot⟩ := Option.map_eq_some_iff.mp hentry
  exact ⟨row, (h.find?_iff.mp hrow).1, hslot⟩

/-! ## §2. Lists and counts. -/

/-- The slots of the rows in a list are different. -/
theorem Holds.nodup_list (h : Holds m r) (scope : Option Scope) :
    ((r.list scope).map fun row => Slot.ofKey row.key).Nodup := by
  have hkeys : (r.keys.map Slot.ofKey).Nodup := by
    apply List.Nodup.map_on _ h.apart
    intro j hj k hk hslot
    obtain ⟨a, -, rfl⟩ := h.slotted j hj
    obtain ⟨b, -, rfl⟩ := h.slotted k hk
    rw [Slot.ofKey_key, Slot.ofKey_key] at hslot
    rw [hslot]
  unfold keys at hkeys
  rw [List.map_map] at hkeys
  unfold Registry.list
  exact ((List.mergeSort_perm _ _).map _).nodup_iff.mpr
    (hkeys.sublist (List.filter_sublist.map _))

/-- The order of rows in a list: by scope, and by name within a scope. -/
def Row.Before (a b : Row) : Prop :=
  a.key.scope.word < b.key.scope.word ∨
    a.key.scope.word = b.key.scope.word ∧ ¬b.key.name < a.key.name

theorem before_of_rowLe {a b : Row} (h : rowLe a b = true) : a.Before b := by
  unfold rowLe at h
  rw [decide_eq_true_eq, List.cons_le_cons_iff, List.cons_le_cons_iff] at h
  obtain hscope | ⟨hscope, hname | ⟨hname, -⟩⟩ := h
  · exact .inl hscope
  · exact .inr ⟨hscope, fun hback => Std.Asymm.asymm _ _ hname hback⟩
  · exact .inr ⟨hscope, fun hback => Std.Irrefl.irrefl _ (hname ▸ hback)⟩

/-- **A list is in order.** -/
theorem sorted_list (r : Registry) (scope : Option Scope) :
    (r.list scope).Pairwise Row.Before := by
  have htrans : ∀ a b c : Row, rowLe a b = true → rowLe b c = true → rowLe a c = true := by
    intro a b c hab hbc
    unfold rowLe at hab hbc ⊢
    rw [decide_eq_true_eq] at hab hbc ⊢
    exact List.le_trans hab hbc
  have htotal : ∀ a b : Row, (rowLe a b || rowLe b a) = true := by
    intro a b
    unfold rowLe
    rw [Bool.or_eq_true, decide_eq_true_eq, decide_eq_true_eq]
    exact List.le_total _ _
  exact (List.pairwise_mergeSort htrans htotal _).imp before_of_rowLe

/-- What is in a list: all rows of the scope. -/
theorem mem_list {r : Registry} {scope : Option Scope} {row : Row} :
    row ∈ r.list scope ↔ row ∈ r.rows ∧ ∀ c, scope = some c → row.key.scope = c := by
  unfold Registry.list
  rw [List.mem_mergeSort, List.mem_filter]
  cases scope with
  | none =>
    constructor
    · rintro ⟨hrow, -⟩
      exact ⟨hrow, fun c hc => nomatch hc⟩
    · rintro ⟨hrow, -⟩
      exact ⟨hrow, rfl⟩
  | some c =>
    show row ∈ r.rows ∧ (row.key.scope == c) = true ↔ _
    rw [beq_iff_eq]
    constructor
    · rintro ⟨hrow, hscope⟩
      exact ⟨hrow, fun c' hc => Option.some.inj hc ▸ hscope⟩
    · rintro ⟨hrow, hscope⟩
      exact ⟨hrow, hscope c rfl⟩

/-- **A list has the entries of the maps,** those of one scope or all. -/
theorem Holds.list_entries (h : Holds m r) (scope : Option Scope) (slot : Slot) (value : String) :
    (slot, value) ∈ (r.list scope).map Row.entry ↔
      m.valueOf slot = some value ∧ ∀ c, scope = some c → slot.scope = c := by
  rw [List.mem_map]
  constructor
  · rintro ⟨row, hrow, hentry⟩
    obtain ⟨hmem, hscope⟩ := mem_list.mp hrow
    obtain ⟨rfl, rfl⟩ := Prod.mk.inj hentry
    refine ⟨h.valueOf_row hmem, ?_⟩
    rw [Slot.scope_ofKey]
    exact hscope
  · rintro ⟨hvalue, hscope⟩
    obtain ⟨row, hmem, hentry⟩ := h.row_of_entry hvalue
    refine ⟨row, mem_list.mpr ⟨hmem, ?_⟩, hentry⟩
    obtain ⟨rfl, -⟩ := Prod.mk.inj hentry
    rw [Slot.scope_ofKey] at hscope
    exact hscope

/-- The slots of a scope that have a value are those of its rows. -/
theorem Holds.mem_slots (h : Holds m r) (c : Scope) (slot : Slot) :
    slot ∈ (r.list (some c)).map (fun row => Slot.ofKey row.key) ↔ slot ∈ m.slots c := by
  have hfst : (r.list (some c)).map (fun row => Slot.ofKey row.key)
      = ((r.list (some c)).map Row.entry).map Prod.fst := by
    rw [List.map_map]
    rfl
  rw [hfst, List.mem_map]
  constructor
  · rintro ⟨⟨slot', value⟩, hentry, rfl⟩
    obtain ⟨hvalue, hscope⟩ := (h.list_entries (some c) slot' value).mp hentry
    exact ⟨hscope c rfl, by rw [hvalue]; exact Option.some_ne_none value⟩
  · rintro ⟨hscope, hvalue⟩
    obtain ⟨value, hvalue⟩ := Option.ne_none_iff_exists'.mp hvalue
    refine ⟨(slot, value), (h.list_entries (some c) slot value).mpr ⟨hvalue, ?_⟩, rfl⟩
    intro c' hc
    exact Option.some.inj hc ▸ hscope

/-- **The removal of a scope counts its slots.** -/
theorem Holds.removeIf_count (h : Holds m r) (c : Scope) :
    (r.removeIf fun row => row.key.scope == c).1 = (m.slots c).ncard := by
  have hlength : (r.removeIf fun row => row.key.scope == c).1
      = ((r.list (some c)).map fun row => Slot.ofKey row.key).length := by
    unfold Registry.removeIf Registry.list
    rw [List.length_map, List.length_mergeSort, List.countP_eq_length_filter]
  rw [hlength, ncard_of_nodup (h.nodup_list (some c)) (h.mem_slots c)]

theorem Holds.finite_slots (h : Holds m r) (c : Scope) : (m.slots c).Finite :=
  (List.finite_toSet _).subset fun slot hslot => (h.mem_slots c slot).mpr hslot

/-- An operation leaves the rows as they are, writes one or removes some. -/
theorem Holds.after_cases (h : Holds m r) {op : RegistryOp} {r' : Registry}
    (hop : r.after op = some r') :
    r' = r ∨ (∃ k value now, r' = r.put k value now) ∨
      ∃ test : RowKey → Bool, r' = (r.removeIf fun row => test row.key).2 := by
  -- operations change one row, take rows out by their key, or do nothing
  cases op with
  | add v override now =>
    rw [after_add] at hop
    obtain rfl := Option.some.inj hop
    cases v.slot? with
    | none => exact .inl rfl
    | some slot =>
      dsimp only
      by_cases hrefused : (r.has slot.key && !override) = true
      · rw [if_pos hrefused]
        exact .inl rfl
      · rw [if_neg hrefused]
        exact .inr (.inl ⟨_, _, _, rfl⟩)
  | set v now =>
    rw [after_set] at hop
    obtain rfl := Option.some.inj hop
    cases v.slot? with
    | none => exact .inl rfl
    | some slot => exact .inr (.inl ⟨_, _, _, rfl⟩)
  | delete scope suite testCase name =>
    obtain rfl := Option.some.inj hop
    obtain ⟨slot, hdelete, -⟩ := r.delete_cases scope suite testCase name
    rw [hdelete]
    exact .inr (.inr ⟨fun k => k == slot.key, rfl⟩)
  | deleteAllLocal =>
    obtain rfl := Option.some.inj hop
    exact .inr (.inr ⟨fun k => k.scope == .perCase, rfl⟩)
  | clearGlobal =>
    obtain rfl := Option.some.inj hop
    exact .inr (.inr ⟨fun k => k.scope == .global, rfl⟩)
  -- what is read back from the file is what was written
  | reopen =>
    have hread : Registry.ofText? r.toText = some r' := hop
    rw [ofText?_toText h.timed] at hread
    exact .inl (Option.some.inj hread).symm

/-- The row that a write leaves in a slot is the new entry of the slot. -/
theorem written_entry (r : Registry) (slot : Slot) (value : String) (now : Int) :
    (r.written slot.key value now).entry = (slot, value) := by
  unfold written
  cases hrow : r.find? slot.key with
  | none =>
    show (Slot.ofKey slot.key, value) = _
    rw [Slot.ofKey_key]
  | some row =>
    show (Slot.ofKey row.key, value) = _
    rw [find?_key hrow, Slot.ofKey_key]

/-- The row that a write leaves at its address has the number of the old one. -/
theorem written_id {k : RowKey} {old : Row} (hold : r.find? k = some old) (value : String)
    (now : Int) : (r.written k value now).id = old.id := by
  unfold written
  rw [hold]

/-- **A row that stays at its address keeps its number.** -/
theorem Holds.after_id (h : Holds m r) {op : RegistryOp} {r' : Registry}
    (hop : r.after op = some r') {k : RowKey} {row row' : Row} (hrow : r.find? k = some row)
    (hrow' : r'.find? k = some row') : row'.id = row.id := by
  obtain rfl | ⟨j, value, now, rfl⟩ | ⟨test, rfl⟩ := h.after_cases hop
  · rw [hrow] at hrow'
    exact congrArg Row.id (Option.some.inj hrow').symm
  · rw [find?_put] at hrow'
    by_cases hk : k = j
    · rw [if_pos hk] at hrow'
      obtain rfl := Option.some.inj hrow'
      exact written_id (hk ▸ hrow) value now
    · rw [if_neg hk, hrow] at hrow'
      exact congrArg Row.id (Option.some.inj hrow').symm
  · rw [find?_removeIf] at hrow'
    by_cases hk : test k = true
    · rw [if_pos hk] at hrow'
      cases hrow'
    · rw [if_neg hk, hrow] at hrow'
      exact congrArg Row.id (Option.some.inj hrow').symm

/-! ## §3. Answers. -/

/-- **A registry answers like two maps.** -/
structure Answers (m : VariableMaps) (r : Registry) : Prop where
  /-- No two rows have one address. -/
  apart : r.keys.Nodup
  /-- A global row has no owner. -/
  ownerless : ∀ row ∈ r.rows, row.key.scope = .global → row.key.suite = "" ∧ row.key.testCase = ""
  /-- The owner of a local row is given in full. -/
  owned : ∀ row ∈ r.rows, row.key.scope = .perCase → row.key.suite ≠ "" ∧ row.key.testCase ≠ ""
  /-- There are finitely many variables. -/
  finite : ∀ c, (m.slots c).Finite
  /-- With both ids of an owner a name is looked up in the local map and then in the global one. -/
  lookup_owner : ∀ s t n, (r.lookup n (some s) (some t)).map Row.entry
    = (m.entry? (.perCase ⟨s, t⟩ n)).orElse fun _ => m.entry? (.global n)
  /-- Without one of the ids it is looked up in the global map only. -/
  lookup_else : ∀ suite testCase n, suite = none ∨ testCase = none →
    (r.lookup n suite testCase).map Row.entry = m.entry? (.global n)
  /-- A list has the entries of the maps, of one scope or of both, -/
  list_entries : ∀ scope slot value, (slot, value) ∈ (r.list scope).map Row.entry ↔
    m.valueOf slot = some value ∧ ∀ c, scope = some c → slot.scope = c
  /-- each slot once, -/
  list_once : ∀ scope, ((r.list scope).map fun row => row.entry.1).Nodup
  /-- by scope and by name. -/
  list_sorted : ∀ scope, (r.list scope).Pairwise Row.Before
  /-- A deletion tells whether the slot that is named had a value. -/
  delete_told : ∀ scope suite testCase name, (r.delete scope suite testCase name).1 = true ↔
    ∃ slot, slotNamed scope suite testCase name = some slot ∧ m.valueOf slot ≠ none
  /-- Deleting all local variables counts the local map. -/
  deleteAllLocal_count : r.deleteAllLocal.1 = (m.slots .perCase).ncard
  /-- Deleting all global variables counts the global map. -/
  clearGlobal_count : r.clearGlobal.1 = (m.slots .global).ncard
  /-- A local variable without an owner in full is refused. -/
  refused : ∀ v, v.slot? = none → ∀ override now,
    r.add v override now = .error (.missingOwner v.name) ∧
      r.set v now = .error (.missingOwner v.name)
  /-- A variable whose slot has a value is refused where it may not be overridden. -/
  taken : ∀ v slot, v.slot? = some slot → m.valueOf slot ≠ none → ∀ now,
    r.add v false now = .error (.variableConflict v.name v.scope (r.suggestion slot.key))
  /-- Any other variable is added, and the answer is its entry. -/
  added : ∀ v slot, v.slot? = some slot → ∀ override, m.valueOf slot = none ∨ override = true →
    ∀ now, ∃ row r', r.add v override now = .ok (row, r') ∧ row.entry = (slot, v.value) ∧
      ∀ old, r.find? slot.key = some old → row.id = old.id
  /-- A row that stays at its address keeps its number, whatever is written over it. -/
  ids : ∀ op r', r.after op = some r' → ∀ k row row', r.find? k = some row →
    r'.find? k = some row' → row'.id = row.id

theorem Holds.lookup_owner (h : Holds m r) (s t n : String) :
    (r.lookup n (some s) (some t)).map Row.entry
      = (m.entry? (.perCase ⟨s, t⟩ n)).orElse fun _ => m.entry? (.global n) := by
  have hlocal : (r.find? (localKey ⟨s, t⟩ n)).map Row.entry = m.entry? (.perCase ⟨s, t⟩ n) :=
    h.find?_entry (.perCase ⟨s, t⟩ n)
  have hglobal : (r.find? (globalKey n)).map Row.entry = m.entry? (.global n) :=
    h.find?_entry (.global n)
  rw [← hlocal, ← hglobal]
  show Option.map Row.entry ((r.find? (localKey ⟨s, t⟩ n)).orElse _) = _
  cases r.find? (localKey ⟨s, t⟩ n) with
  | none => rfl
  | some row => rfl

theorem Holds.lookup_else (h : Holds m r) {suite testCase : Option String}
    (hids : suite = none ∨ testCase = none) (n : String) :
    (r.lookup n suite testCase).map Row.entry = m.entry? (.global n) := by
  have hglobal : (r.find? (globalKey n)).map Row.entry = m.entry? (.global n) :=
    h.find?_entry (.global n)
  rw [← hglobal]
  rcases hids with rfl | rfl
  · rfl
  · cases suite with
    | none => rfl
    | some s => rfl

theorem Holds.delete_told (h : Holds m r) (scope : Scope) (suite testCase : Option String)
    (name : String) :
    (r.delete scope suite testCase name).1 = true ↔
      ∃ slot, slotNamed scope suite testCase name = some slot ∧ m.valueOf slot ≠ none := by
  obtain ⟨slot, hdelete, hnamed⟩ := r.delete_cases scope suite testCase name
  rw [hdelete]
  show r.has slot.key = true ↔ _
  rw [h.has_key, Option.isSome_iff_ne_none]
  constructor
  · intro hvalue
    obtain hsome | ⟨-, hfull⟩ := hnamed
    · exact ⟨slot, hsome, hvalue⟩
    · exact absurd (h.valueOf_eq_none hfull) hvalue
  · rintro ⟨slot', hslot', hvalue⟩
    obtain hsome | ⟨hnone, -⟩ := hnamed
    · rw [hsome] at hslot'
      obtain rfl := Option.some.inj hslot'
      exact hvalue
    · rw [hnone] at hslot'
      cases hslot'

/-- **Under the invariant every answer is that of the maps.** -/
theorem Holds.answers (h : Holds m r) : Answers m r where
  apart := h.apart
  ownerless := by
    intro row hrow hscope
    -- every row has the key of a slot, and a slot knows its owner
    obtain ⟨slot, -, hkey⟩ := h.slotted row.key (List.mem_map_of_mem hrow)
    rw [hkey] at hscope ⊢
    cases slot with
    | global n => exact ⟨rfl, rfl⟩
    | perCase o n => cases hscope
  owned := by
    intro row hrow hscope
    obtain ⟨slot, hfull, hkey⟩ := h.slotted row.key (List.mem_map_of_mem hrow)
    rw [hkey] at hscope ⊢
    cases slot with
    | global n => cases hscope
    | perCase o n => exact hfull
  finite := h.finite_slots
  lookup_owner := h.lookup_owner
  lookup_else := fun _ _ n hids => h.lookup_else hids n
  list_entries := h.list_entries
  list_once := h.nodup_list
  list_sorted := sorted_list r
  delete_told := h.delete_told
  deleteAllLocal_count := h.removeIf_count .perCase
  clearGlobal_count := h.removeIf_count .global
  refused := fun _ hv override now => ⟨add_of_none r hv override now, set_of_none r hv now⟩
  taken := by
    intro v slot hv hvalue now
    apply add_of_taken r hv
    rw [h.has_key, Option.isSome_iff_ne_none]
    exact hvalue
  added := by
    intro v slot hv override hfree now
    have hwrite : r.has slot.key = false ∨ override = true := by
      rw [h.has_key]
      rcases hfree with hnone | hover
      · exact .inl (by rw [hnone]; rfl)
      · exact .inr hover
    exact ⟨_, _, add_written r hv hwrite now, written_entry r slot v.value now,
      fun old hold => written_id hold v.value now⟩
  ids := fun _ _ hop _ _ _ hrow hrow' => h.after_id hop hrow hrow'

end

/-- **A REGISTRY IS A PAIR OF FINITE MAPS.**  After any operations on a registry that starts empty,
with any scopes, names, values and owners, the registry can still be opened and answers like the
two maps after the same operations. -/
theorem answers_afterAll (ops : List RegistryOp) :
    ∃ r, Registry.empty.afterAll ops = some r ∧ Answers (VariableMaps.empty.afterAll ops) r := by
  obtain ⟨r, hrun, hholds⟩ := holds_empty.afterAll ops
  exact ⟨r, hrun, hholds.answers⟩

end SuiteRunner

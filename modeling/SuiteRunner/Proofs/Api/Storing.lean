import SuiteRunner.Proofs.Api.Accounting
import SuiteRunner.Proofs.Variables.Writes

/-!
  SuiteRunner.Proofs.Api.Storing
  ────────────────────────────────
  **WHAT STORING VALUES OF A RESPONSE DOES TO THE OUTCOME AND TO THE VARIABLES.**

  Directives are carried out in the order of their names.  The path of each is filled in the store
  that those before it left, so a value that was stored may decide what the next path selects.  A
  `Directive` is one of them with what came of it:

    • `storeOne_carriedOut` — one directive stores its value, or it counts as failed and only looks
      variables up,
    • `storeAll_carriedOut` — all of them in a row,
    • `Directive.updated_of_follow` — the variables that they write between them,
    • `storeAll_directives` — the outcome, the variables that are set and all those that are not.
-/

namespace SuiteRunner

open Registry (globalKey localKey)
open Store (Remembers Looks looks_inject Updated wrote_set)

namespace Api

/-! ## §1. One directive. -/

/-- A directive that was carried out: the variable and the path that it names, the stores before
and after it, and the value that was found or the reason why there is none. -/
structure Directive where
  name : String
  path : String
  before : Store
  after : Store
  found : Except String Json

namespace Directive

/-- The path as it is filled. -/
def filled (o : Owner) (d : Directive) : String := (d.before.inject o d.path).1

/-- **What carrying out a directive comes to.** -/
structure CarriedOut (o : Owner) (document : Option Json) (d : Directive) : Prop where
  /-- A value is found exactly if the path selects one, as it is filled in the store before. -/
  found_iff : ∀ v, d.found = .ok v ↔ selected? document (d.filled o) = some v
  reason : ∀ e, d.found = .error e → stored d.name (d.filled o) document = .error e
  /-- The value is written as it is found, after the path was looked up. -/
  stores : ∀ v, d.found = .ok v →
    ∃ m, Remembers o d.before m ∧ d.after = m.setGlobal d.name (valueText v)
  /-- A directive that fails only looks variables up. -/
  fails : ∀ e, d.found = .error e → Remembers o d.before d.after

/-- The error of a directive that fails. -/
def errors (d : Directive) : List String :=
  match d.found with
  | .ok _ => []
  | .error e => [e]

/-- What a directive writes. -/
def writes (d : Directive) : List (Slot × String) :=
  match d.found with
  | .ok v => [(.global d.name, valueText v)]
  | .error _ => []

/-- Directives are carried out one after another, from one store to another. -/
def Follow : Store → List Directive → Store → Prop
  | s, [], s' => s' = s
  | s, d :: rest, s' => d.before = s ∧ Follow d.after rest s'

end Directive

/-- The outcome of errors alone. -/
def ofErrors (errors : List String) : Outcome := { failed := errors.length, errors := errors }

theorem merge_ofErrors (outcome : Outcome) (errors more : List String) :
    (outcome.merge (ofErrors errors)).merge (ofErrors more)
      = outcome.merge (ofErrors (errors ++ more)) := by
  simp only [Outcome.merge, ofErrors, List.length_append, List.append_assoc, Nat.add_assoc]

theorem merge_ofErrors_nil (outcome : Outcome) : outcome.merge (ofErrors []) = outcome := by
  simp only [Outcome.merge, ofErrors, List.length_nil, List.append_nil, Nat.add_zero]

/-- What is stored is what the path selects. -/
theorem stored_eq_ok_iff {name path : String} {document : Option Json} {v : Json} :
    stored name path document = .ok v ↔ selected? document path = some v := by
  constructor
  · intro h
    cases hselected : selected? document path with
    | none =>
      obtain ⟨e, he⟩ := stored_of_not_selected name hselected
      rw [he] at h
      cases h
    | some w =>
      rw [stored_of_selected name hselected] at h
      cases h
      rfl
  · exact stored_of_selected name

/-- **One directive:** the outcome after it, and what it does with variables. -/
theorem storeOne_carriedOut (o : Owner) (document : Option Json) (name path : String)
    (outcome : Outcome) (s : Store) :
    ∃ d : Directive, d.name = name ∧ d.path = path ∧ d.before = s ∧ d.CarriedOut o document ∧
      storeOne o document name path outcome s =
        (outcome.merge (ofErrors d.errors), d.after) := by
  have hlooked : Remembers o s (s.inject o path).2 := (looks_inject o path).remembers s
  unfold storeOne
  -- whether the path selects anything decides between a write and an error
  cases hfound : stored name (s.inject o path).1 document with
  | ok v =>
    refine ⟨⟨name, path, s, (s.inject o path).2.setGlobal name (valueText v), .ok v⟩,
      rfl, rfl, rfl, ?_, ?_⟩
    · exact
        { found_iff := fun w => hfound ▸ stored_eq_ok_iff
          reason := fun _ h => nomatch h
          stores := fun w h => by
            cases h
            exact ⟨_, hlooked, rfl⟩
          fails := fun _ h => nomatch h }
    · simp only [hfound, Directive.errors, merge_ofErrors_nil]
  | error e =>
    refine ⟨⟨name, path, s, (s.inject o path).2, .error e⟩, rfl, rfl, rfl, ?_, ?_⟩
    · exact
        { found_iff := fun w => hfound ▸ stored_eq_ok_iff
          reason := fun _ h => by
            cases h
            exact hfound
          stores := fun _ h => nomatch h
          fails := fun _ _ => hlooked }
    · simp only [hfound]
      rfl

/-! ## §2. All directives. -/

/-- **Directives in a row:** each is carried out in the store that those before it left, and each
that fails adds its error. -/
theorem storeAll_carriedOut (o : Owner) (document : Option Json)
    (directives : List (String × String)) (outcome : Outcome) (s : Store) :
    ∃ ds s', ds.map (fun d => (d.name, d.path)) = directives ∧ Directive.Follow s ds s' ∧
      (∀ d ∈ ds, d.CarriedOut o document) ∧
      storeAll o document directives outcome s =
        (outcome.merge (ofErrors (ds.flatMap Directive.errors)), s') := by
  -- for every outcome and store: both are what the directives before left
  induction directives generalizing outcome s with
  | nil => exact ⟨[], s, rfl, rfl, by simp, by rw [List.flatMap_nil, merge_ofErrors_nil]; rfl⟩
  | cons directive rest ih =>
    obtain ⟨name, path⟩ := directive
    obtain ⟨d, rfl, rfl, rfl, hd, hone⟩ := storeOne_carriedOut o document name path outcome s
    obtain ⟨ds, s', hlisted, hfollow, heach, hall⟩ :=
      ih (outcome.merge (ofErrors d.errors)) d.after
    refine ⟨d :: ds, s', by rw [List.map_cons, hlisted], ⟨rfl, hfollow⟩,
      List.forall_mem_cons.mpr ⟨hd, heach⟩, ?_⟩
    unfold storeAll
    simp only [hone, hall, merge_ofErrors, List.flatMap_cons]

namespace Directive

variable {o : Owner} {document : Option Json}

/-- A directive writes its variable or nothing. -/
theorem CarriedOut.updated {d : Directive} (h : d.CarriedOut o document) :
    Updated d.writes d.before d.after := by
  unfold writes
  cases hfound : d.found with
  | ok v =>
    obtain ⟨m, hlooked, hafter⟩ := h.stores v hfound
    rw [hafter]
    exact .after_look hlooked (wrote_set m o .global d.name (valueText v)).updated
  | error e => exact (h.fails e hfound).updated

/-- **What directives write between them** is what each of them writes, in order. -/
theorem updated_of_follow {ds : List Directive} {s s' : Store} (hfollow : Follow s ds s')
    (heach : ∀ d ∈ ds, d.CarriedOut o document) : Updated (ds.flatMap writes) s s' := by
  induction ds generalizing s with
  | nil =>
    obtain rfl : s' = s := hfollow
    exact (Remembers.refl o s').updated
  | cons d ds ih =>
    obtain ⟨hd, hrest⟩ := List.forall_mem_cons.mp heach
    obtain ⟨rfl, hfollow⟩ := hfollow
    exact hd.updated.trans (ih hfollow hrest)

/-- What directives write are values that were found, under the names of the directives. -/
theorem mem_writes_iff {ds : List Directive} {slot : Slot} {text : String} :
    (slot, text) ∈ ds.flatMap writes ↔
      ∃ d ∈ ds, ∃ v, d.found = .ok v ∧ slot = .global d.name ∧ text = valueText v := by
  rw [List.mem_flatMap]
  refine exists_congr fun d => and_congr_right fun _ => ?_
  unfold writes
  cases d.found with
  | ok v => simp
  | error e => simp

end Directive

/-! ## §3. The directives of an item. -/

/-- **What storing the values of a response comes to,** where `directives` are the directives of an
item, from the outcome and the store as they are before to `outcome'` and `s'`. -/
structure Stored (o : Owner) (document : Option Json) (directives : TextMap) (outcome : Outcome)
    (s : Store) (outcome' : Outcome) (s' : Store) (ds : List Directive) : Prop where
  /-- Each directive is carried out once, in the order of the names. -/
  listed : ds.map (fun d => (d.name, d.path)) = directives.entries
  ordered : (ds.map Directive.name).Pairwise (· < ·)
  /-- Each begins in the store that those before it left. -/
  follow : Directive.Follow s ds s'
  each : ∀ d ∈ ds, d.CarriedOut o document
  /-- Those that fail are counted, each with an error, and nothing else is. -/
  passed : outcome'.passed = outcome.passed
  failed : outcome'.failed
    = outcome.failed + ds.countP fun d => (selected? document (d.filled o)).isNone
  errors : outcome'.errors = outcome.errors ++ ds.flatMap Directive.errors
  one_error : (ds.flatMap Directive.errors).length
    = ds.countP fun d => (selected? document (d.filled o)).isNone
  /-- If the body is no document, all fail. -/
  no_document : document = none → outcome'.failed = outcome.failed + directives.entries.length
  /-- The variable of any other directive has the text of the value that was selected. -/
  selected : ∀ d ∈ ds, ∀ v, selected? document (d.filled o) = some v →
    s'.getGlobal d.name = some (valueText v) ∧
      (s.registry.isSome → s'.rowValue (globalKey d.name) = some (valueText v))
  /-- No other global variable is written, and no local one: what is new in memory is what the
  registry has. -/
  other_globals : ∀ n, (∀ d ∈ ds, d.name = n → selected? document (d.filled o) = none) →
    (s'.getGlobal n = s.getGlobal n ∨
      s.getGlobal n = none ∧ s'.getGlobal n = s.rowValue (globalKey n)) ∧
    s'.rowValue (globalKey n) = s.rowValue (globalKey n)
  locals : ∀ p n, (s'.getLocal p n = s.getLocal p n ∨
      s.getLocal p n = none ∧ s'.getLocal p n = s.rowValue (localKey p n)) ∧
    s'.rowValue (localKey p n) = s.rowValue (localKey p n)

section

variable {o : Owner} {document : Option Json} {directives : TextMap} {ds : List Directive}
  {s s' : Store}

/-- **There are as many errors as directives that found nothing.** -/
theorem length_errors (heach : ∀ d ∈ ds, d.CarriedOut o document) :
    (ds.flatMap Directive.errors).length
      = ds.countP fun d => (selected? document (d.filled o)).isNone := by
  induction ds with
  | nil => rfl
  | cons d ds ih =>
    obtain ⟨hd, hrest⟩ := List.forall_mem_cons.mp heach
    have hone : d.errors.length = if (selected? document (d.filled o)).isNone then 1 else 0 := by
      unfold Directive.errors
      cases hfound : d.found with
      | ok v =>
        rw [(hd.found_iff v).mp hfound]
        rfl
      | error e =>
        have hnone : selected? document (d.filled o) = none := by
          refine Option.eq_none_iff_forall_ne_some.mpr fun v hv => ?_
          rw [(hd.found_iff v).mpr hv] at hfound
          cases hfound
        rw [hnone]
        rfl
    rw [List.flatMap_cons, List.length_append, ih hrest, hone, List.countP_cons, Nat.add_comm]

/-- The names of directives are in order, so none of them occurs twice. -/
theorem ordered_names (hlisted : ds.map (fun d => (d.name, d.path)) = directives.entries) :
    (ds.map Directive.name).Pairwise (· < ·) := by
  have hsorted := directives.sorted
  rw [← hlisted, List.pairwise_map] at hsorted
  exact List.pairwise_map.mpr hsorted

theorem nodup_names (hordered : (ds.map Directive.name).Pairwise (· < ·)) :
    (ds.map Directive.name).Nodup := by
  refine hordered.imp ?_
  rintro a b hlt rfl
  exact String.lt_irrefl a hlt

/-- The text of a value stays, for no other directive has the same name. -/
theorem last_writes (hordered : (ds.map Directive.name).Pairwise (· < ·)) {d : Directive} {v : Json}
    (hd : d ∈ ds) (hv : d.found = .ok v) :
    Slot.last (ds.flatMap Directive.writes) (.global d.name) = some (valueText v) := by
  apply Slot.last_eq_some (Directive.mem_writes_iff.mpr ⟨d, hd, v, hv, rfl, rfl⟩)
  intro text htext
  obtain ⟨d', hd', w, hw, hname, rfl⟩ := Directive.mem_writes_iff.mp htext
  have hsame : d = d' :=
    List.inj_on_of_nodup_map (nodup_names hordered) hd hd' (Slot.global.inj hname)
  subst hsame
  rw [hv] at hw
  cases hw
  rfl

end

/-- **STORING VALUES OF A RESPONSE.**  Whatever the directives, the body, the outcome so far and the
variables: the directives are carried out in the order of their names, each path filled in the store
that those before it left.  Those whose path selects nothing are counted as failed, each with an
error in that order; the variable of each other one is set to the text of the value that its path
selects.  No other global variable is written, and no local one. -/
theorem storeAll_directives (o : Owner) (document : Option Json) (directives : TextMap)
    (outcome : Outcome) (s : Store) :
    ∃ outcome' s' ds, storeAll o document directives.entries outcome s = (outcome', s') ∧
      Stored o document directives outcome s outcome' s' ds := by
  obtain ⟨ds, s', hlisted, hfollow, heach, hall⟩ :=
    storeAll_carriedOut o document directives.entries outcome s
  have hordered : (ds.map Directive.name).Pairwise (· < ·) := ordered_names hlisted
  have hupdated : Updated (ds.flatMap Directive.writes) s s' :=
    Directive.updated_of_follow hfollow heach
  refine ⟨_, s', ds, hall,
    { listed := hlisted
      ordered := hordered
      follow := hfollow
      each := heach
      passed := rfl
      failed := congrArg (outcome.failed + ·) (length_errors heach)
      errors := rfl
      one_error := length_errors heach
      no_document := ?_
      selected := ?_
      other_globals := ?_
      locals := ?_ }⟩
  · -- without a document no path selects anything
    rintro rfl
    have hall : (ds.countP fun d => (selected? none (d.filled o)).isNone) = ds.length :=
      List.countP_eq_length.mpr fun _ _ => rfl
    have hlength : ds.length = directives.entries.length := by rw [← hlisted, List.length_map]
    exact congrArg (outcome.failed + ·) ((length_errors heach).trans (hall.trans hlength))
  · -- names differ, so what a directive wrote is what stays
    intro d hd v hv
    have hlast := last_writes hordered hd (((heach d hd).found_iff v).mpr hv)
    refine ⟨hupdated.written (.global d.name) _ hlast, fun hregistry => ?_⟩
    have hrow := hupdated.stored (.global d.name) ⟨hregistry, trivial⟩
    rw [hlast] at hrow
    exact hrow
  · -- a value for this variable would have been selected by one of the directives
    intro n hn
    have hnone : Slot.last (ds.flatMap Directive.writes) (.global n) = none := by
      refine Slot.last_eq_none_iff.mpr fun text htext => ?_
      obtain ⟨d, hd, v, hv, hname, -⟩ := Directive.mem_writes_iff.mp htext
      have hselected := ((heach d hd).found_iff v).mp hv
      rw [hn d hd (Slot.global.inj hname).symm] at hselected
      cases hselected
    exact ⟨hupdated.unwritten _ hnone, hupdated.stored_of_unwritten hnone⟩
  · -- directives write global variables alone
    intro p n
    have hnone : Slot.last (ds.flatMap Directive.writes) (.perCase p n) = none := by
      refine Slot.last_eq_none_iff.mpr fun text htext => ?_
      obtain ⟨d, -, v, -, hname, -⟩ := Directive.mem_writes_iff.mp htext
      cases hname
    exact ⟨hupdated.unwritten _ hnone, hupdated.stored_of_unwritten hnone⟩

/-- The first value decides what the last path selects; the directive between them fails, and its
variable stays unset. -/
example :
    let body := Json.obj [("key", .str "b"), ("b", .bool true)]
    let directives := [("k", "$.key"), ("m", "$.none"), ("v", "$.\x7b\x7bk\x7d\x7d")]
    let r := storeAll ⟨"s", "c"⟩ (some body) directives {} (.ofRegistry none)
    r.1.errors = ["store m: nothing matched $.none"] ∧
      r.2.globals = [("k", "b"), ("v", "true")] := by
  decide +kernel

end Api

end SuiteRunner

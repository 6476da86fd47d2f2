import Mathlib.Data.List.Basic
import Mathlib.Data.Nat.Init
import SuiteRunner.Proofs.Number.Order
import SuiteRunner.Ui.Table

/-!
  SuiteRunner.Proofs.Ui.Sorting
  ────────────────────────────────
  **WHEN A COLUMN COUNTS AS SORTED.**

  The check looks at neighbouring rows only.  What two cells are compared by is a key: the place of
  the cell's number if every cell is a number, and its plain text otherwise.  Keys are ordered, so
  neighbours in order put all rows in order, unless a row between them has no key: a cell that reads
  as `nan` compares as equal with both of its neighbours, and cuts the column in two there.

    • `Key.compare` is an order,
    • `stepOrders_eq` — neighbours are compared by their keys, and one without a key is equal to all,
    • `inOrder_of_unbroken` — in a stretch of rows with keys the order of neighbours is that of all,
    • `checkSorted_by_stretches` — **a column is accepted when each such stretch is sorted.**
-/

namespace SuiteRunner.Table

open Binary64 (Place)

/-! ## §1. Keys. -/

/-- What a cell is compared by. -/
inductive Key where
  | number (place : Place)
  | text (plain : String)
  deriving DecidableEq, Repr

namespace Key

/-- The order of keys; those of one column are all numbers or all texts. -/
def compare : Key → Key → Ordering
  | .number p, .number q => p.compare q
  | .number _, .text _ => .lt
  | .text _, .number _ => .gt
  | .text s, .text t => Text.order s t

instance : Std.OrientedCmp Key.compare where
  eq_swap := by
    intro a b
    cases a <;> cases b <;> try rfl
    case number.number p q =>
      show p.compare q = (q.compare p).swap
      exact Std.OrientedCmp.eq_swap
    case text.text s t =>
      show Ord.compare s t = (Ord.compare t s).swap
      exact Std.OrientedCmp.eq_swap

instance : Std.TransCmp Key.compare where
  isLE_trans := by
    intro a b c hab hbc
    cases a with
    | number p =>
      cases c with
      | text t => rfl
      | number r =>
        cases b with
        | text t => cases hbc
        | number q =>
          have hpq : (p.compare q).isLE := hab
          have hqr : (q.compare r).isLE := hbc
          have hpr : (p.compare r).isLE := Std.TransCmp.isLE_trans hpq hqr
          exact hpr
    | text s =>
      cases b with
      | number q => cases hab
      | text t =>
        cases c with
        | number r => cases hbc
        | text u =>
          have hst : (Ord.compare s t).isLE := hab
          have htu : (Ord.compare t u).isLE := hbc
          have hsu : (Ord.compare s u).isLE := Std.TransCmp.isLE_trans hst htu
          exact hsu

/-- Two keys stand in the order that is asked for, ties allowed. -/
def Ordered (descending : Bool) (a b : Key) : Prop :=
  (if descending then b.compare a else a.compare b).isLE = true

instance (descending : Bool) (a b : Key) : Decidable (Ordered descending a b) :=
  inferInstanceAs (Decidable (_ = true))

/-- **The order of cells is transitive** among those that have keys. -/
theorem Ordered.trans {descending : Bool} {a b c : Key} (hab : Ordered descending a b)
    (hbc : Ordered descending b c) : Ordered descending a c := by
  cases descending with
  | false =>
    have hle : (a.compare c).isLE := Std.TransCmp.isLE_trans hab hbc
    exact hle
  | true =>
    have hle : (c.compare a).isLE := Std.TransCmp.isLE_trans hbc hab
    exact hle

/-- The comparison that is run tells the order. -/
theorem inOrder_compare_iff {descending : Bool} {a b : Key} :
    inOrder descending (a.compare b) = true ↔ Ordered descending a b := by
  cases descending with
  | false =>
    show (a.compare b != .gt) = true ↔ (a.compare b).isLE
    cases a.compare b <;> decide
  | true =>
    have hswap : b.compare a = (a.compare b).swap := Std.OrientedCmp.eq_swap
    show (a.compare b != .lt) = true ↔ (b.compare a).isLE
    rw [hswap]
    cases a.compare b <;> decide

/-- Keys that are in order both ways compare equal. -/
theorem ordered_both_iff {a b : Key} :
    Ordered false a b ∧ Ordered true a b ↔ a.compare b = .eq := by
  rw [← inOrder_compare_iff, ← inOrder_compare_iff]
  cases a.compare b <;> decide

end Key

/-- Whether every cell of a column is a number. -/
def isNumeric (texts : List String) : Bool := texts.all fun t => (numberOfCell? t).isSome

/-- The key of a cell: the place of its number, which `nan` lacks, or its plain text. -/
def keyOf? (numeric : Bool) (text : String) : Option Key :=
  if numeric then ((numberOfCell? text).bind Binary64.place?).map .number
  else some (.text (plainCell text))

/-- The keys of a column. -/
def keys (texts : List String) : List (Option Key) := texts.map (keyOf? (isNumeric texts))

/-- The key of the cell in a row. -/
def keyAt (texts : List String) (i : Nat) : Option Key := (keys texts)[i]?.join

/-- How two cells that stand next to each other compare: without a key, as equal. -/
def orderOf (a b : Option Key) : Ordering :=
  match a, b with
  | some a, some b => a.compare b
  | _, _ => .eq

/-! ## §2. Neighbours. -/

theorem numberOrder_eq (x y : Binary64) :
    numberOrder x y = orderOf (x.place?.map .number) (y.place?.map .number) := by
  unfold numberOrder Binary64.compare?
  cases x.place? with
  | none => rfl
  | some p => cases y.place? <;> rfl

/-- The numbers of a column are those of its cells. -/
theorem map_of_columnNumbers? {texts : List String} {ns : List Binary64}
    (h : columnNumbers? texts = some ns) : texts.map numberOfCell? = ns.map some := by
  unfold columnNumbers? at h
  induction texts generalizing ns with
  | nil =>
    cases h
    rfl
  | cons t rest ih =>
    rw [List.mapM_cons] at h
    obtain ⟨n, hn, hrest⟩ := Option.bind_eq_some_iff.mp h
    obtain ⟨ms, hms, hcons⟩ := Option.bind_eq_some_iff.mp hrest
    cases hcons
    rw [List.map_cons, List.map_cons, hn, ih hms]

theorem columnNumbers?_isSome (texts : List String) :
    (columnNumbers? texts).isSome = isNumeric texts := by
  unfold columnNumbers? isNumeric
  induction texts with
  | nil => rfl
  | cons t rest ih =>
    rw [List.mapM_cons, List.all_cons, ← ih]
    cases numberOfCell? t with
    | none => rfl
    | some n => cases rest.mapM numberOfCell? <;> rfl

/-- The keys of a column of numbers are the places of the numbers. -/
theorem keys_of_columnNumbers? {texts : List String} {ns : List Binary64}
    (h : columnNumbers? texts = some ns) :
    keys texts = ns.map fun x => x.place?.map .number := by
  have hnumeric : isNumeric texts = true := by rw [← columnNumbers?_isSome, h, Option.isSome_some]
  have hkey : keyOf? true = fun t => ((numberOfCell? t).bind Binary64.place?).map Key.number := by
    funext t
    exact if_pos rfl
  have hmap := congrArg (List.map fun x? => (x?.bind Binary64.place?).map Key.number)
    (map_of_columnNumbers? h)
  simp only [List.map_map, Function.comp_def, Option.bind_some] at hmap
  unfold keys
  rw [hnumeric, hkey, hmap]

/-- The keys of any other column are its plain texts. -/
theorem keys_of_no_columnNumbers {texts : List String} (h : columnNumbers? texts = none) :
    keys texts = texts.map fun t => some (.text (plainCell t)) := by
  have hnumeric : isNumeric texts = false := by rw [← columnNumbers?_isSome, h, Option.isSome_none]
  have hkey : keyOf? false = fun t => some (Key.text (plainCell t)) := by
    funext t
    exact if_neg Bool.false_ne_true
  unfold keys
  rw [hnumeric, hkey]

/-- **Neighbours are compared by their keys.** -/
theorem stepOrders_eq (texts : List String) :
    stepOrders texts = List.zipWith orderOf (keys texts) (keys texts).tail := by
  unfold stepOrders
  cases hns : columnNumbers? texts with
  | some ns =>
    show List.zipWith numberOrder ns ns.tail = _
    rw [keys_of_columnNumbers? hns, ← List.map_tail, List.zipWith_map]
    congr 1
    funext x y
    exact numberOrder_eq x y
  | none =>
    show List.zipWith _ texts texts.tail = _
    rw [keys_of_no_columnNumbers hns, ← List.map_tail, List.zipWith_map]
    rfl

/-- A column passes exactly if each step to a neighbour is in order. -/
theorem checkSorted_eq_ok_iff {descending : Bool} {texts : List String} :
    checkSorted descending texts = .ok () ↔
      ∀ o ∈ stepOrders texts, inOrder descending o = true := by
  have hnone : firstDisorder? descending texts = none ↔
      ∀ o ∈ stepOrders texts, inOrder descending o = true := by
    unfold firstDisorder?
    rw [Option.map_eq_none_iff, List.findIdx?_eq_none_iff]
    simp only [Bool.not_eq_false']
  rw [← hnone]
  unfold checkSorted
  cases firstDisorder? descending texts <;> simp

/-- A column is accepted when every two neighbours that have keys are in order. -/
theorem checkSorted_by_neighbours {descending : Bool} {texts : List String} :
    checkSorted descending texts = .ok () ↔
      ∀ i a b, keyAt texts i = some a → keyAt texts (i + 1) = some b →
        Key.Ordered descending a b := by
  rw [checkSorted_eq_ok_iff, stepOrders_eq]
  constructor
  · intro h i a b ha hb
    have hplace : (List.zipWith orderOf (keys texts) (keys texts).tail)[i]?
        = some (a.compare b) := by
      rw [List.getElem?_zipWith_eq_some]
      refine ⟨some a, some b, Option.join_eq_some_iff.mp ha, ?_, rfl⟩
      rw [List.getElem?_tail]
      exact Option.join_eq_some_iff.mp hb
    exact Key.inOrder_compare_iff.mp (h _ (List.mem_of_getElem? hplace))
  · intro h o ho
    obtain ⟨i, hplace⟩ := List.mem_iff_getElem?.mp ho
    obtain ⟨x, y, hx, hy, rfl⟩ := List.getElem?_zipWith_eq_some.mp hplace
    rw [List.getElem?_tail] at hy
    -- a neighbour without a key is in order with everything
    cases x with
    | none => cases descending <;> rfl
    | some a =>
      cases y with
      | none => cases descending <;> rfl
      | some b =>
        exact Key.inOrder_compare_iff.mpr (h i a b (Option.join_eq_some_iff.mpr hx)
          (Option.join_eq_some_iff.mpr hy))

/-! ## §3. Stretches. -/

/-- **Every row from one to another has a key.** -/
def Unbroken (texts : List String) (i j : Nat) : Prop :=
  ∀ m, i ≤ m → m ≤ j → (keyAt texts m).isSome

/-- **In an unbroken stretch the order of neighbours is the order of all rows.** -/
theorem ordered_of_unbroken {descending : Bool} {texts : List String}
    (hsteps : ∀ i a b, keyAt texts i = some a → keyAt texts (i + 1) = some b →
      Key.Ordered descending a b)
    {i j : Nat} (hij : i < j) (hunbroken : Unbroken texts i j) {a b : Key}
    (ha : keyAt texts i = some a) (hb : keyAt texts j = some b) : Key.Ordered descending a b := by
  -- on the lower row of the pair, with the one above it as the row between
  induction j, hij using Nat.le_induction generalizing b with
  | base => exact hsteps i a b ha hb
  | succ j hij ih =>
    have hbefore : Unbroken texts i j := fun m him hmj => hunbroken m him (Nat.le_succ_of_le hmj)
    obtain ⟨c, hc⟩ := Option.isSome_iff_exists.mp (hbefore j (Nat.le_of_succ_le hij) (Nat.le_refl j))
    exact (ih hbefore hc).trans (hsteps j c b hc hb)

/-- A column is accepted when each unbroken stretch is in order. -/
theorem checkSorted_eq_ok_iff_unbroken {descending : Bool} {texts : List String} :
    checkSorted descending texts = .ok () ↔
      ∀ i j a b, i < j → Unbroken texts i j → keyAt texts i = some a → keyAt texts j = some b →
        Key.Ordered descending a b := by
  rw [checkSorted_by_neighbours]
  constructor
  · intro hsteps i j a b hij hunbroken ha hb
    exact ordered_of_unbroken hsteps hij hunbroken ha hb
  · intro h i a b ha hb
    have hunbroken : Unbroken texts i (i + 1) := by
      intro m him hmi
      obtain rfl | rfl : m = i ∨ m = i + 1 := by omega
      · exact Option.isSome_of_eq_some ha
      · exact Option.isSome_of_eq_some hb
    exact h i (i + 1) a b (Nat.lt_succ_self i) hunbroken ha hb

/-! ## §4. Columns. -/

theorem keyAt_eq (texts : List String) (i : Nat) :
    keyAt texts i = texts[i]?.bind (keyOf? (isNumeric texts)) := by
  unfold keyAt keys
  rw [List.getElem?_map]
  cases texts[i]? <;> rfl

/-- A column with a place for every number in it. -/
def Placed (texts : List String) : Prop :=
  isNumeric texts = true → ∀ t ∈ texts, numberOfCell? t ≠ some .nan

/-- In such a column every row has a key. -/
theorem Placed.isSome_keyAt {texts : List String} (h : Placed texts) {i : Nat} :
    (keyAt texts i).isSome ↔ i < texts.length := by
  rw [keyAt_eq]
  cases ht : texts[i]? with
  | none =>
    have hlength := List.getElem?_eq_none_iff.mp ht
    simpa using hlength
  | some t =>
    obtain ⟨hi, -⟩ := List.getElem?_eq_some_iff.mp ht
    refine iff_of_true ?_ hi
    show (keyOf? (isNumeric texts) t).isSome
    unfold keyOf?
    cases hnumeric : isNumeric texts with
    | false => rfl
    | true =>
      have hmem : t ∈ texts := List.mem_of_getElem? ht
      obtain ⟨x, hx⟩ := Option.isSome_iff_exists.mp (List.all_eq_true.mp hnumeric t hmem)
      have hplace : x.place? ≠ none := fun hnone =>
        h hnumeric t hmem (hx.trans (congrArg some (Binary64.place?_eq_none_iff.mp hnone)))
      simpa [hx, Option.isSome_iff_ne_none] using hplace

/-- A column of which all cells have places is one stretch. -/
theorem Placed.unbroken {texts : List String} (h : Placed texts) {i j : Nat}
    (hj : j < texts.length) : Unbroken texts i j :=
  fun _ _ hmj => h.isSome_keyAt.mpr (Nat.lt_of_le_of_lt hmj hj)

/-- **A COLUMN COUNTS AS SORTED WHEN EACH OF ITS UNBROKEN STRETCHES IS.**  In a column whose numbers
all have places there is one stretch, the column: it is accepted when any two rows are in order, and
in both directions only if any two compare equal.  A cell that reads as `nan` in a column of numbers
ends a stretch, and rows on its two sides are not compared, neither with one another nor with it. -/
theorem checkSorted_by_stretches (texts : List String) :
    (∀ descending, checkSorted descending texts = .ok () ↔
      ∀ i j a b, i < j → Unbroken texts i j → keyAt texts i = some a → keyAt texts j = some b →
        Key.Ordered descending a b) ∧
    (checkSorted false texts = .ok () ∧ checkSorted true texts = .ok () ↔
      ∀ i j a b, i < j → Unbroken texts i j → keyAt texts i = some a → keyAt texts j = some b →
        a.compare b = .eq) ∧
    (Placed texts →
      (∀ i, (keyAt texts i).isSome ↔ i < texts.length) ∧
      (∀ descending, checkSorted descending texts = .ok () ↔
        ∀ i j a b, i < j → keyAt texts i = some a → keyAt texts j = some b →
          Key.Ordered descending a b) ∧
      (checkSorted false texts = .ok () ∧ checkSorted true texts = .ok () ↔
        ∀ i j a b, i < j → keyAt texts i = some a → keyAt texts j = some b →
          a.compare b = .eq)) := by
  -- to pass both ways leaves only equal neighbours
  have hboth : checkSorted false texts = .ok () ∧ checkSorted true texts = .ok () ↔
      ∀ i j a b, i < j → Unbroken texts i j → keyAt texts i = some a → keyAt texts j = some b →
        a.compare b = .eq := by
    rw [checkSorted_eq_ok_iff_unbroken, checkSorted_eq_ok_iff_unbroken]
    constructor
    · rintro ⟨hup, hdown⟩ i j a b hij hunbroken ha hb
      exact Key.ordered_both_iff.mp
        ⟨hup i j a b hij hunbroken ha hb, hdown i j a b hij hunbroken ha hb⟩
    · intro h
      constructor
      · intro i j a b hij hunbroken ha hb
        exact (Key.ordered_both_iff.mpr (h i j a b hij hunbroken ha hb)).1
      · intro i j a b hij hunbroken ha hb
        exact (Key.ordered_both_iff.mpr (h i j a b hij hunbroken ha hb)).2
  refine ⟨fun _ => checkSorted_eq_ok_iff_unbroken, hboth, fun hplaced => ?_⟩
  -- a column without gaps is one stretch
  have hwhole : ∀ {i j b}, keyAt texts j = some b → Unbroken texts i j := fun hb =>
    hplaced.unbroken (hplaced.isSome_keyAt.mp (Option.isSome_of_eq_some hb))
  refine ⟨fun _ => hplaced.isSome_keyAt, fun descending => ?_, ?_⟩
  · rw [checkSorted_eq_ok_iff_unbroken]
    exact ⟨fun h i j a b hij ha hb => h i j a b hij (hwhole hb) ha hb,
      fun h i j a b hij _ ha hb => h i j a b hij ha hb⟩
  · rw [hboth]
    exact ⟨fun h i j a b hij ha hb => h i j a b hij (hwhole hb) ha hb,
      fun h i j a b hij _ ha hb => h i j a b hij ha hb⟩

/-- Numbers with blanks around them and in several notations, two of them equal. -/
def risingColumn : List String := ["-inf", " 2 ", "1e1", "10.0", "33"]

theorem checkSorted_by_stretches_rising :
    Placed risingColumn ∧ checkSorted false risingColumn = .ok () ∧
      ∀ i j a b, i < j → keyAt risingColumn i = some a → keyAt risingColumn j = some b →
        Key.Ordered false a b := by
  have hplaced : Placed risingColumn := fun _ => by decide
  have haccepted : checkSorted false risingColumn = .ok () :=
    checkSorted_eq_ok_iff.mpr (by decide +kernel)
  exact ⟨hplaced, haccepted,
    (((checkSorted_by_stretches risingColumn).2.2 hplaced).2.1 false).mp haccepted⟩

/-- A column of numbers with one in it that has no place. -/
def brokenColumn : List String := ["2", "NaN", "1"]

/-- Two stands before one in a column of numbers that is accepted as ascending, and as descending
although the two differ. -/
theorem two_before_one_accepted :
    isNumeric brokenColumn = true ∧
    (∃ a b, keyAt brokenColumn 0 = some a ∧ keyAt brokenColumn 2 = some b ∧
      ¬ Key.Ordered false a b ∧ a.compare b ≠ .eq) ∧
    checkSorted false brokenColumn = .ok () ∧ checkSorted true brokenColumn = .ok () := by
  refine ⟨by decide, ?_, checkSorted_eq_ok_iff.mpr (by decide),
    checkSorted_eq_ok_iff.mpr (by decide)⟩
  refine ⟨.number (.at (2 ^ 1075)), .number (.at (2 ^ 1074)), ?_⟩
  decide +kernel

end SuiteRunner.Table

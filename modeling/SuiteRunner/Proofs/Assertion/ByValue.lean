import SuiteRunner.Assertion.OnJson
import SuiteRunner.Proofs.Json.Equality

/-!
  SuiteRunner.Proofs.Assertion.ByValue
  ────────────────────────────────
  **WHICH NUMBERS ASSERTIONS COMPARE BY VALUE.**

  Seven kinds of assertions rest on equality of values.  Each compares values that it takes from so
  many levels of what was found and of what is expected (`AssertionKind.reach`); a number there may
  be replaced by one that is equal to it by value, and the verdict stays:

    • `Assertion.holds_found`, `Assertion.holds_expected` — the kinds that only hold or fail,
    • `Assertion.isOk_checkElement_found`, … — the one that looks into the elements of an array,
    • `Assertion.equality_by_depth` — **what equality is at every depth, and what that leaves of
      replacing numbers.**
-/

namespace SuiteRunner

open Json (Lookalike Number Replaced lookup?)
open Json.Number (ByValue)

/-- How many levels down an assertion of a kind compares the numbers by value: in the value found,
and in the value expected. -/
def AssertionKind.reach : AssertionKind → Option (Nat × Nat)
  | .equals | .notEquals => some (0, 0)
  | .isIn | .notIn => some (0, 1)
  | .contains => some (1, 0)
  | .includesAll => some (1, 1)
  | .arrayObjectMatch => some (2, 0)
  | _ => none

namespace Assertion

/-! ## §1. Among the items of an array. -/

/-- An item makes place for another that has the same property. -/
theorem any_replaced {α : Type} (p : α → Bool) {x y : α} (h : p x = p y) (before after : List α) :
    (before ++ x :: after).any p = (before ++ y :: after).any p := by
  rw [List.any_append, List.any_append, List.any_cons, List.any_cons, h]

/-- Whether any item is equal to a value does not change with a number that an item is. -/
theorem anyEqual_items {x y : Json} (h : Replaced ByValue 0 x y) (before after : List Json)
    (v : Json) : anyEqual (before ++ x :: after) v = anyEqual (before ++ y :: after) v :=
  any_replaced _ (h.equalValues_left v) before after

/-- The number may also be the value that is looked for. -/
theorem anyEqual_wanted {v w : Json} (h : Replaced ByValue 0 v w) (items : List Json) :
    anyEqual items v = anyEqual items w := by
  unfold anyEqual
  simp only [h.equalValues_right]

/-- What was found may be replaced itself. -/
theorem isAmong_found {x y : Json} (h : Replaced ByValue 0 x y) (expected : Json) :
    isAmong (some x) expected = isAmong (some y) expected := by
  cases expected with
  | arr options =>
    show options.any _ = options.any _
    simp only [h.equalValues_left]
  | _ => rfl

/-- What is expected may be a list, so a number may be an item of it. -/
theorem isAmong_expected {d : Nat} {e e' : Json} (h : Replaced ByValue d e e') (hd : d ≤ 1)
    (found : Option Json) : isAmong found e = isAmong found e' := by
  cases h with
  | number hvalue => cases found <;> rfl
  | member key before after h => cases found <;> rfl
  | @item d x y before after h =>
    obtain rfl : d = 0 := by omega
    cases found with
    | none => rfl
    | some a => exact any_replaced _ (h.equalValues_right a) before after

/-! ## §2. The kinds that hold or fail. -/

/-- An array contains a value as long as one of its items is equal to it. -/
theorem holds_contains_found {d : Nat} {x y : Json} (h : Replaced ByValue d x y) (hd : d ≤ 1)
    (expected : Json) : holds .contains (some x) expected = holds .contains (some y) expected := by
  cases h with
  | number hvalue => rfl
  | member key before after h => rfl
  | @item d x y before after h =>
    obtain rfl : d = 0 := by omega
    exact anyEqual_items h before after expected

/-- To include all values asks for one item for each. -/
theorem holds_includesAll_found {d : Nat} {x y : Json} (h : Replaced ByValue d x y) (hd : d ≤ 1)
    (expected : Json) :
    holds .includesAll (some x) expected = holds .includesAll (some y) expected := by
  cases h with
  | number hvalue => rfl
  | member key before after h => rfl
  | @item d x y before after h =>
    obtain rfl : d = 0 := by omega
    cases expected with
    | arr wanted =>
      show wanted.all (anyEqual (before ++ x :: after))
        = wanted.all (anyEqual (before ++ y :: after))
      rw [funext (anyEqual_items h before after)]
    | _ => rfl

/-- Each value that is asked for may be replaced. -/
theorem holds_includesAll_expected {d : Nat} {e e' : Json} (h : Replaced ByValue d e e')
    (hd : d ≤ 1) (found : Option Json) :
    holds .includesAll found e = holds .includesAll found e' := by
  cases found with
  | none => rfl
  | some a =>
    cases a with
    | arr items =>
      cases h with
      | number hvalue => rfl
      | member key before after h => rfl
      | @item d x y before after h =>
        obtain rfl : d = 0 := by omega
        show (before ++ x :: after).all (anyEqual items)
          = (before ++ y :: after).all (anyEqual items)
        rw [List.all_append, List.all_append, List.all_cons, List.all_cons, anyEqual_wanted h]
    | _ => rfl

/-- **Of the value found,** a number within reach may be replaced. -/
theorem holds_found {k : AssertionKind} {i j d : Nat} {x y : Json} (hk : k.reach = some (i, j))
    (h : Replaced ByValue d x y) (hd : d ≤ i) (expected : Json) :
    holds k (some x) expected = holds k (some y) expected := by
  cases k <;> cases hk
  case equals =>
    obtain rfl : d = 0 := by omega
    simp only [holds, Option.map_some, h.equalValues_left]
  case notEquals =>
    obtain rfl : d = 0 := by omega
    simp only [holds, Option.map_some, h.equalValues_left]
  case isIn =>
    obtain rfl : d = 0 := by omega
    exact isAmong_found h expected
  case notIn =>
    obtain rfl : d = 0 := by omega
    exact congrArg Bool.not (isAmong_found h expected)
  case contains => exact holds_contains_found h hd expected
  case includesAll => exact holds_includesAll_found h hd expected
  case arrayObjectMatch => rfl

/-- **Of the value expected** too, unless a text is searched for the text of it. -/
theorem holds_expected {k : AssertionKind} {i j d : Nat} {e e' : Json} (hk : k.reach = some (i, j))
    (h : Replaced ByValue d e e') (hd : d ≤ j) (found : Option Json)
    (htext : k = .contains → ∀ t, found ≠ some (.str t)) :
    holds k found e = holds k found e' := by
  cases k <;> cases hk
  case equals =>
    obtain rfl : d = 0 := by omega
    simp only [holds, h.equalValues_right]
  case notEquals =>
    obtain rfl : d = 0 := by omega
    simp only [holds, h.equalValues_right]
  case isIn => exact isAmong_expected h hd found
  case notIn => exact congrArg Bool.not (isAmong_expected h hd found)
  case contains =>
    obtain rfl : d = 0 := by omega
    cases found with
    | none => rfl
    | some a =>
      cases a with
      | str t => exact absurd rfl (htext rfl t)
      | arr items => exact anyEqual_wanted h items
      | _ => rfl
  case includesAll => exact holds_includesAll_expected h hd found
  case arrayObjectMatch => rfl

/-! ## §3. The first element with a value. -/

/-- Of an object the value under a key is compared, which is one level down. -/
theorem hasValueAt_item {d : Nat} {x y : Json} (h : Replaced ByValue d x y) (hd : d ≤ 1)
    (key : String) (v : Json) : hasValueAt x key v = hasValueAt y key v := by
  unfold hasValueAt
  cases h with
  | number hvalue => rfl
  | item before after h => rfl
  | @member d x y key' before after h =>
    obtain rfl : d = 0 := by omega
    show ((Json.lookup? key (before ++ (key', x) :: after)).map _ == some true)
      = ((Json.lookup? key (before ++ (key', y) :: after)).map _ == some true)
    rcases Json.lookup?_replaced key' x y before after key with heq | ⟨hx, hy⟩
    · rw [heq]
    · rw [hx, hy, Option.map_some, Option.map_some, h.equalValues_left]

/-- The value that it is compared with may be replaced itself. -/
theorem hasValueAt_value {v w : Json} (h : Replaced ByValue 0 v w) (item : Json) (key : String) :
    hasValueAt item key v = hasValueAt item key w := by
  unfold hasValueAt
  simp only [h.equalValues_right]

/-- What is asked of the first item with a property, when an item makes place for another that has
the same properties. -/
theorem map_find?_replaced {α : Type} (p q : α → Bool) {x y : α} (hp : p x = p y) (hq : q x = q y)
    (before after : List α) :
    ((before ++ x :: after).find? p).map q = ((before ++ y :: after).find? p).map q := by
  rw [List.find?_append, List.find?_append]
  cases before.find? p with
  | some a => rfl
  | none =>
    by_cases hx : p x = true
    · rw [List.find?_cons_of_pos hx, List.find?_cons_of_pos (hp ▸ hx)]
      exact congrArg some hq
    · rw [List.find?_cons_of_neg hx, List.find?_cons_of_neg (hp ▸ hx)]

/-- Whether there is a first element with the one value, and it has the other. -/
def elementFits (key : String) (wanted : Json) (field : String) (items : List Json)
    (expected : Json) : Bool :=
  ((items.find? fun item => hasValueAt item key wanted).map
    fun element => hasValueAt element field expected) == some true

/-- **The element that is looked for stays the same** when a number in any of the elements is
replaced. -/
theorem elementFits_items {d : Nat} {x y : Json} (h : Replaced ByValue d x y) (hd : d ≤ 1)
    (key : String) (wanted : Json) (field : String) (before after : List Json) (expected : Json) :
    elementFits key wanted field (before ++ x :: after) expected
      = elementFits key wanted field (before ++ y :: after) expected := by
  unfold elementFits
  rw [map_find?_replaced _ _ (hasValueAt_item h hd key wanted)
    (hasValueAt_item h hd field expected)]

/-- The verdict on an array, without its text. -/
theorem isOk_checkElement (a : Assertion) (path : String) (items : List Json) (expected : Json) :
    (a.checkElement path (some (.arr items)) expected).isOk =
      match a.matchField, a.matchValue, a.assertField with
      | some key, some wanted, some field => elementFits key wanted field items expected
      | _, _, _ => false := by
  unfold checkElement
  cases a.matchField with
  | none => rfl
  | some key =>
    cases a.matchValue with
    | none => rfl
    | some wanted =>
      cases a.assertField with
      | none => rfl
      | some field =>
        dsimp only
        unfold elementFits
        cases items.find? fun item => hasValueAt item key wanted with
        | none => rfl
        | some element =>
          dsimp only [Option.map_some]
          by_cases h : hasValueAt element field expected = true
          · rw [if_pos h, h]
            rfl
          · rw [if_neg h, Bool.eq_false_iff.mpr h]
            rfl

/-- Of what is no array there is no element. -/
theorem isOk_checkElement_of_ne (a : Assertion) (path : String) {found : Option Json}
    (hfound : ∀ items, found ≠ some (.arr items)) (expected : Json) :
    (a.checkElement path found expected).isOk = false := by
  unfold checkElement
  split
  · split
    · exact absurd rfl (hfound _)
    · rfl
  · rfl

/-- The verdict on an array of objects stays: its numbers are two levels down. -/
theorem isOk_checkElement_found {d : Nat} {x y : Json} (h : Replaced ByValue d x y) (hd : d ≤ 2)
    (a : Assertion) (path : String) (expected : Json) :
    (a.checkElement path (some x) expected).isOk
      = (a.checkElement path (some y) expected).isOk := by
  cases h with
  | number hvalue =>
    rw [isOk_checkElement_of_ne a path (by simp), isOk_checkElement_of_ne a path (by simp)]
  | member key before after h =>
    rw [isOk_checkElement_of_ne a path (by simp), isOk_checkElement_of_ne a path (by simp)]
  | @item d x y before after h =>
    rw [isOk_checkElement, isOk_checkElement]
    simp only [elementFits_items h (by omega)]

/-- What is expected of the element may be replaced itself. -/
theorem isOk_checkElement_expected {e e' : Json} (h : Replaced ByValue 0 e e') (a : Assertion)
    (path : String) (found : Option Json) :
    (a.checkElement path found e).isOk = (a.checkElement path found e').isOk := by
  by_cases hfound : ∃ items, found = some (.arr items)
  · obtain ⟨items, rfl⟩ := hfound
    rw [isOk_checkElement, isOk_checkElement]
    simp only [elementFits, hasValueAt_value h]
  · rw [not_exists] at hfound
    rw [isOk_checkElement_of_ne a path hfound, isOk_checkElement_of_ne a path hfound]

/-- The value that the element is looked for by may be replaced itself. -/
theorem isOk_checkElement_matchValue {v w : Json} (h : Replaced ByValue 0 v w) (a : Assertion)
    (path : String) (found : Option Json) (expected : Json) :
    ({ a with matchValue := some v }.checkElement path found expected).isOk
      = ({ a with matchValue := some w }.checkElement path found expected).isOk := by
  by_cases hfound : ∃ items, found = some (.arr items)
  · obtain ⟨items, rfl⟩ := hfound
    rw [isOk_checkElement, isOk_checkElement]
    cases a.matchField with
    | none => rfl
    | some key =>
      cases a.assertField with
      | none => rfl
      | some field => simp only [elementFits, hasValueAt_value h]
  · rw [not_exists] at hfound
    rw [isOk_checkElement_of_ne _ path hfound, isOk_checkElement_of_ne _ path hfound]

/-! ## §4. The verdict. -/

/-- The verdict of a kind that holds or fails, without its text. -/
theorem isOk_checkFound {a : Assertion} {i j : Nat} (hreach : a.kind.reach = some (i, j))
    (helement : a.kind ≠ .arrayObjectMatch) (path : String) (found : Option Json)
    (expected : Json) : (a.checkFound path found expected).isOk = holds a.kind found expected := by
  unfold checkFound
  cases hk : a.kind <;> rw [hk] at hreach helement <;> cases hreach
  case arrayObjectMatch => exact absurd rfl helement
  all_goals
    dsimp only
    split
    · rename_i h
      exact h.symm
    · rename_i h
      exact (Bool.eq_false_iff.mpr h).symm

theorem checkFound_element {a : Assertion} (hk : a.kind = .arrayObjectMatch) (path : String)
    (found : Option Json) (expected : Json) :
    a.checkFound path found expected = a.checkElement path found expected := by
  unfold checkFound
  rw [hk]

/-- **A number within reach of a kind may be replaced in what was found.** -/
theorem isOk_found {a : Assertion} {i j d : Nat} {x y : Json} (hreach : a.kind.reach = some (i, j))
    (h : Replaced ByValue d x y) (hd : d ≤ i) (path : String) (expected : Json) :
    (a.checkFound path (some x) expected).isOk = (a.checkFound path (some y) expected).isOk := by
  by_cases hk : a.kind = .arrayObjectMatch
  · rw [checkFound_element hk, checkFound_element hk]
    rw [hk] at hreach
    cases hreach
    exact isOk_checkElement_found h hd a path expected
  · rw [isOk_checkFound hreach hk, isOk_checkFound hreach hk]
    exact holds_found hreach h hd expected

/-- **A number within reach may be replaced in what is expected.**  Of a text `contains` asks for a
part, and the texts of two equal numbers may differ. -/
theorem isOk_expected {a : Assertion} {i j d : Nat} {e e' : Json}
    (hreach : a.kind.reach = some (i, j)) (h : Replaced ByValue d e e') (hd : d ≤ j)
    (path : String) (found : Option Json)
    (htext : a.kind = .contains → ∀ t, found ≠ some (.str t)) :
    (a.checkFound path found e).isOk = (a.checkFound path found e').isOk := by
  by_cases hk : a.kind = .arrayObjectMatch
  · rw [checkFound_element hk, checkFound_element hk]
    rw [hk] at hreach
    cases hreach
    obtain rfl : d = 0 := by omega
    exact isOk_checkElement_expected h a path found
  · rw [isOk_checkFound hreach hk, isOk_checkFound hreach hk]
    exact holds_expected hreach h hd found htext

/-- The value to look for may be replaced whatever the kind; only one kind looks at it. -/
theorem isOk_matchValue {v w : Json} (h : Replaced ByValue 0 v w) (a : Assertion) (path : String)
    (found : Option Json) (expected : Json) :
    ({ a with matchValue := some v }.checkFound path found expected).isOk
      = ({ a with matchValue := some w }.checkFound path found expected).isOk := by
  cases hk : a.kind
  case arrayObjectMatch => exact isOk_checkElement_matchValue h _ path found expected
  -- no other kind reads it
  all_goals rfl

/-- **Equality at every depth, and what it leaves of replacing numbers.**

Arrays are equal as values when their items are, position by position, and no two of them are
look-alikes; so are objects, key by key.  A document in which a look-alike has taken the place of a
number is therefore equal to the old one exactly when that number is the whole document.

A number equal by value may take the place of one in the value found or expected, or in the value
that an element is found by, and the verdict stays, as long as the number is within reach of the
kind.  The one exception is a text that is searched for the text of an expected value. -/
theorem equality_by_depth (xs ys : List Json) {ms ns : List (String × Json)}
    (hms : (ms.map Prod.fst).Nodup) (hns : (ns.map Prod.fst).Nodup) (a : Assertion)
    (path : String) :
    ((Json.arr xs).equalValues (.arr ys) = true ↔
      xs.length = ys.length ∧
      ∀ (i : Nat) (x y : Json), xs[i]? = some x → ys[i]? = some y →
        x.equalValues y = true ∧ ¬ Lookalike x y) ∧
    ((Json.obj ms).equalValues (.obj ns) = true ↔
      (∀ k, k ∈ ms.map Prod.fst ↔ k ∈ ns.map Prod.fst) ∧
      ∀ (k : String) (v w : Json), lookup? k ms = some v → lookup? k ns = some w →
        v.equalValues w = true ∧ ¬ Lookalike v w) ∧
    (∀ (d : Nat) (x y : Json), Replaced Number.Lookalike d x y → x.Proper →
      (x.equalValues y = true ↔ d = 0)) ∧
    (∀ i j : Nat, a.kind.reach = some (i, j) →
      (∀ (d : Nat) (x y expected : Json), Replaced ByValue d x y → d ≤ i →
        (a.checkFound path (some x) expected).isOk = (a.checkFound path (some y) expected).isOk) ∧
      (∀ (d : Nat) (e e' : Json) (found : Option Json), Replaced ByValue d e e' → d ≤ j →
        (a.kind = .contains → ∀ t, found ≠ some (.str t)) →
        (a.checkFound path found e).isOk = (a.checkFound path found e').isOk) ∧
      (∀ (v w : Json) (found : Option Json) (expected : Json), Replaced ByValue 0 v w →
        ({ a with matchValue := some v }.checkFound path found expected).isOk
          = ({ a with matchValue := some w }.checkFound path found expected).isOk)) := by
  refine ⟨Json.equalValues_arr xs ys, Json.equalValues_obj hms hns,
    fun d x y h hx => h.equalValues_iff hx, ?_⟩
  -- what a number may be replaced in: what was found, what is expected, what is looked for
  intro i j hreach
  refine ⟨?_, ?_, ?_⟩
  · intro d x y expected h hd
    exact isOk_found hreach h hd path expected
  · intro d e e' found h hd htext
    exact isOk_expected hreach h hd path found htext
  · intro v w found expected h
    exact isOk_matchValue h a path found expected

/-- The double that is written `1.0`. -/
def oneAsDouble : Json := .num (.float (.ofInt 1))

theorem equality_by_depth_one :
    ([("n", Json.ofInt 1)].map Prod.fst).Nodup ∧ ([("n", oneAsDouble)].map Prod.fst).Nodup ∧
    (Json.ofInt 1).equalValues oneAsDouble = true ∧
    (Json.arr [.ofInt 1]).equalValues (.arr [oneAsDouble]) = false ∧
    (Json.obj [("n", .ofInt 1)]).equalValues (.obj [("n", oneAsDouble)]) = false ∧
    ∀ path,
      (({ kind := .includesAll } : Assertion).checkFound path (some (.arr [.ofInt 1]))
          (.arr [oneAsDouble])).isOk
        = (({ kind := .includesAll } : Assertion).checkFound path (some (.arr [oneAsDouble]))
          (.arr [oneAsDouble])).isOk := by
  have hlook : Number.Lookalike (.int 1) (.float (.ofInt 1)) :=
    ⟨Binary64.equal_ofInt_self 1, rfl⟩
  have hms : ([("n", Json.ofInt 1)].map Prod.fst).Nodup := by decide
  have hns : ([("n", oneAsDouble)].map Prod.fst).Nodup := by decide
  have hlaw := equality_by_depth [.ofInt 1] [oneAsDouble] hms hns { kind := .includesAll }
  refine ⟨hms, hns, hlook.1, ?_, ?_, ?_⟩
  · rw [Bool.eq_false_iff, ne_eq, (hlaw "").1]
    intro h
    exact (h.2 0 _ _ rfl rfl).2 hlook
  · rw [Bool.eq_false_iff, ne_eq, (hlaw "").2.1]
    intro h
    exact (h.2 "n" _ _ rfl rfl).2 hlook
  · intro path
    exact ((hlaw path).2.2.2 1 1 rfl).1 1 _ _ _ (.item [] [] (.number hlook.1)) (Nat.le_refl 1)

/-- Equal by value alone, and not inside an array: an assertion that expects `[1.0]` fails on
`[1]`. -/
theorem one_in_an_array :
    (Json.ofInt 1).equalValues oneAsDouble = true ∧
    (Json.arr [.ofInt 1]).equalValues (.arr [oneAsDouble]) = false ∧
    (({ kind := .equals } : Assertion).checkFound "$.n" (some (.arr [oneAsDouble]))
      (.arr [oneAsDouble])).isOk = true ∧
    (({ kind := .equals } : Assertion).checkFound "$.n" (some (.arr [.ofInt 1]))
      (.arr [oneAsDouble])).isOk = false := by
  decide +kernel

end Assertion

end SuiteRunner

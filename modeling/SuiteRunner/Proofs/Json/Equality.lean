import Mathlib.Data.List.Nodup
import Mathlib.Data.List.Perm.Subperm
import SuiteRunner.Json.Comparison
import SuiteRunner.Proofs.Json.Values

/-!
  SuiteRunner.Proofs.Json.Equality
  ────────────────────────────────
  **HOW FAR DOWN NUMBERS ARE COMPARED BY VALUE.**

  `Json.equalValues` compares two numbers by value and any other two documents by `Json.same`,
  which tells an integer from a double.  So numbers are compared by value at the top only.  Two
  numbers that are equal by value but are not the same are called look-alikes:

    • `Json.same_iff` — to be the same is to be equal as values and no look-alikes,
    • `Json.equalValues_arr` — **two arrays are equal when they are at every position, and no two
      items are look-alikes,**
    • `Json.equalValues_obj` — **two objects, when they have the same keys and so are the members,**
    • `Json.Replaced` — a number somewhere in a document is replaced by another,
    • `Json.Replaced.equalValues_iff` — a look-alike is taken for the number it replaces at the top,
      and nowhere below,
    • `Json.equalValues_comm` — neither equality depends on the order of the two documents.
-/

namespace SuiteRunner

/-! ## §1. Numbers equal by value. -/

namespace Binary64

/-- Places are compared as equal exactly if they are. -/
theorem Place.compare_eq_iff (p q : Place) : p.compare q = .eq ↔ p = q := by
  cases p <;> cases q <;> simp [Place.compare]

/-- Two doubles are equal when they lie at one place. -/
theorem equal_iff (a b : Binary64) :
    a.equal b = true ↔ ∃ p, a.place? = some p ∧ b.place? = some p := by
  unfold equal compare?
  cases a.place? with
  | none => simp
  | some p =>
    cases b.place? with
    | none => simp
    | some q =>
      show (some (p.compare q) == some Ordering.eq) = true ↔ _
      rw [beq_iff_eq, Option.some.injEq, Place.compare_eq_iff]
      constructor
      · rintro rfl
        exact ⟨p, rfl, rfl⟩
      · rintro ⟨r, hp, hq⟩
        cases hp
        cases hq
        rfl

/-- Of two numbers either may be asked first. -/
theorem equal_comm (a b : Binary64) : a.equal b = b.equal a := by
  rw [Bool.eq_iff_iff, equal_iff, equal_iff]
  simp only [and_comm]

/-- Equal doubles are equal to the same doubles. -/
theorem equal_congr {a b : Binary64} (h : a.equal b = true) (c : Binary64) :
    a.equal c = b.equal c := by
  obtain ⟨p, ha, hb⟩ := (equal_iff a b).mp h
  rw [Bool.eq_iff_iff, equal_iff, equal_iff, ha, hb]

/-- A rounded quotient is a number. -/
theorem place?_ofRatio (neg : Bool) (num den : Nat) :
    ∃ p, (ofRatio neg num den).place? = some p := by
  have hplace (q : Nat) (e : Int) :
      ∃ p, (if e > 971 then inf neg else finite neg q e).place? = some p := by
    by_cases he : e > 971
    · rw [if_pos he]
      cases neg with
      | false => exact ⟨.top, rfl⟩
      | true => exact ⟨.bottom, rfl⟩
    · rw [if_neg he]
      exact ⟨.at (units neg q e), rfl⟩
  unfold ofRatio
  by_cases hnum : num = 0
  · rw [if_pos hnum]
    exact ⟨.at (units neg 0 (-1074)), rfl⟩
  · rw [if_neg hnum]
    exact hplace _ _

/-- An integer that becomes a double is equal to itself: it is a number. -/
theorem equal_ofInt_self (n : Int) : (ofInt n).equal (ofInt n) = true := by
  obtain ⟨p, hp⟩ := place?_ofRatio (decide (n < 0)) n.natAbs 1
  exact (equal_iff _ _).mpr ⟨p, hp, hp⟩

end Binary64

namespace Json

/-- Equality of numbers by value. -/
def Number.ByValue (m n : Number) : Prop := m.toDouble.equal n.toDouble = true

/-- Two numbers that are equal by value and still not the same: an integer and a double, or two
integers with one double. -/
def Number.Lookalike (m n : Number) : Prop := m.ByValue n ∧ m.same n = false

/-- What is the same is equal by value. -/
theorem Number.byValue_of_same {m n : Number} (h : m.same n = true) : m.ByValue n := by
  cases m with
  | int a =>
    cases n with
    | int b =>
      rw [show a = b from beq_iff_eq.mp h]
      exact Binary64.equal_ofInt_self b
    | float y => cases h
  | float x =>
    cases n with
    | int b => cases h
    | float y => exact h

/-- Two documents that are numbers, look-alikes. -/
def Lookalike : Json → Json → Prop
  | .num m, .num n => m.Lookalike n
  | _, _ => False

/-- **To be the same is to be equal as values and no look-alikes.** -/
theorem same_iff (x y : Json) :
    x.same y = true ↔ x.equalValues y = true ∧ ¬ Lookalike x y := by
  cases x with
  | num m =>
    cases y with
    | num n =>
      show m.same n = true ↔ m.ByValue n ∧ ¬ (m.ByValue n ∧ m.same n = false)
      constructor
      · intro h
        exact ⟨Number.byValue_of_same h, fun hlook => by rw [h] at hlook; cases hlook.2⟩
      · rintro ⟨hvalue, hlook⟩
        by_contra hne
        exact hlook ⟨hvalue, Bool.eq_false_iff.mpr hne⟩
    | _ => simp [same, equalValues, Lookalike]
  | _ => cases y <;> simp [same, equalValues, Lookalike]

/-! ## §2. Arrays. -/

/-- **Arrays are the same** if they are as long as each other and the same in each place. -/
theorem sameItems_iff (xs ys : List Json) :
    sameItems xs ys = true ↔
      xs.length = ys.length ∧
      ∀ (i : Nat) (x y : Json), xs[i]? = some x → ys[i]? = some y → x.same y = true := by
  induction xs generalizing ys with
  | nil =>
    cases ys with
    | nil => simp [sameItems]
    | cons y ys => simp [sameItems]
  | cons x xs ih =>
    cases ys with
    | nil => simp [sameItems]
    | cons y ys =>
      simp only [sameItems, Bool.and_eq_true, ih, List.length_cons, Nat.add_right_cancel_iff]
      constructor
      · rintro ⟨hxy, hlength, hrest⟩
        refine ⟨hlength, ?_⟩
        intro i a b ha hb
        cases i with
        | zero =>
          cases ha
          cases hb
          exact hxy
        | succ i => exact hrest i a b ha hb
      · rintro ⟨hlength, hall⟩
        exact ⟨hall 0 x y rfl rfl, hlength, fun i a b => hall (i + 1) a b⟩

/-- **Two arrays are equal as values** when they have one length, their items are equal as values
at every position, and at no position they are look-alikes. -/
theorem equalValues_arr (xs ys : List Json) :
    (arr xs).equalValues (arr ys) = true ↔
      xs.length = ys.length ∧
      ∀ (i : Nat) (x y : Json), xs[i]? = some x → ys[i]? = some y →
        x.equalValues y = true ∧ ¬ Lookalike x y := by
  simp only [← same_iff]
  exact sameItems_iff xs ys

/-! ## §3. Objects. -/

/-- A key is found exactly if it is there. -/
theorem lookup?_isSome (k : String) (ms : List (String × Json)) :
    (lookup? k ms).isSome = true ↔ k ∈ ms.map Prod.fst := by
  induction ms with
  | nil => simp [lookup?]
  | cons m ms ih =>
    obtain ⟨j, v⟩ := m
    unfold lookup?
    by_cases hj : j = k
    · simp [hj]
    · rw [if_neg hj, ih, List.map_cons, List.mem_cons]
      exact ⟨.inr, fun h => h.resolve_left (Ne.symm hj)⟩

/-- With keys of their own, members are what is under their keys. -/
theorem lookup?_eq_some_iff {k : String} {v : Json} {ms : List (String × Json)}
    (hkeys : (ms.map Prod.fst).Nodup) : lookup? k ms = some v ↔ (k, v) ∈ ms := by
  induction ms with
  | nil => simp [lookup?]
  | cons m ms ih =>
    obtain ⟨j, w⟩ := m
    obtain ⟨hj, hrest⟩ := List.nodup_cons.mp hkeys
    unfold lookup?
    by_cases hjk : j = k
    · subst hjk
      rw [if_pos rfl, List.mem_cons, Option.some.injEq, Prod.mk.injEq]
      constructor
      · intro h
        exact .inl ⟨rfl, h.symm⟩
      · rintro (⟨-, h⟩ | hmem)
        · exact h.symm
        · exact absurd (List.mem_map_of_mem hmem) hj
    · rw [if_neg hjk, ih hrest, List.mem_cons, Prod.mk.injEq]
      exact ⟨.inr, fun h => h.resolve_left fun heq => hjk heq.1.symm⟩

/-- Each member is looked up by its key. -/
theorem sameMembers_cons (k : String) (v : Json) (ms ns : List (String × Json)) :
    sameMembers ((k, v) :: ms) ns = true ↔
      (∃ w, lookup? k ns = some w ∧ v.same w = true) ∧ sameMembers ms ns = true := by
  rw [sameMembers]
  cases lookup? k ns <;> simp

/-- Members are the same as others if each of them is found there with the same value. -/
theorem sameMembers_iff (ms ns : List (String × Json)) :
    sameMembers ms ns = true ↔
      ∀ k v, (k, v) ∈ ms → ∃ w, lookup? k ns = some w ∧ v.same w = true := by
  induction ms with
  | nil => simp [sameMembers]
  | cons m ms ih =>
    obtain ⟨j, u⟩ := m
    simp only [sameMembers_cons, ih, List.mem_cons, Prod.mk.injEq]
    constructor
    · rintro ⟨hfirst, hrest⟩ k v (⟨rfl, rfl⟩ | hmem)
      · exact hfirst
      · exact hrest k v hmem
    · intro hall
      exact ⟨hall j u (.inl ⟨rfl, rfl⟩), fun k v hmem => hall k v (.inr hmem)⟩

/-- Members that have equals in an object have keys there. -/
theorem keys_of_sameMembers {ms ns : List (String × Json)} (h : sameMembers ms ns = true) :
    ms.map Prod.fst ⊆ ns.map Prod.fst := by
  intro k hk
  obtain ⟨⟨j, v⟩, hmem, rfl⟩ := List.mem_map.mp hk
  obtain ⟨w, hw, -⟩ := (sameMembers_iff ms ns).mp h j v hmem
  exact (lookup?_isSome j ns).mp (by rw [hw]; rfl)

/-- Lists of keys of their own, one in the other and not shorter, have the same keys. -/
theorem keys_subset {ks js : List String} (hks : ks.Nodup) (hsub : ks ⊆ js)
    (hlength : ks.length = js.length) : js ⊆ ks :=
  ((hks.subperm hsub).perm_of_length_le (Nat.le_of_eq hlength.symm)).symm.subset

/-- **Two objects are equal as values** when they have the same keys, their members are equal as
values under every key, and under no key they are look-alikes. -/
theorem equalValues_obj {ms ns : List (String × Json)} (hms : (ms.map Prod.fst).Nodup)
    (hns : (ns.map Prod.fst).Nodup) :
    (obj ms).equalValues (obj ns) = true ↔
      (∀ k, k ∈ ms.map Prod.fst ↔ k ∈ ns.map Prod.fst) ∧
      ∀ (k : String) (v w : Json), lookup? k ms = some v → lookup? k ns = some w →
        v.equalValues w = true ∧ ¬ Lookalike v w := by
  show (ms.length == ns.length && sameMembers ms ns) = true ↔ _
  simp only [← same_iff, Bool.and_eq_true, beq_iff_eq, sameMembers_iff]
  constructor
  · rintro ⟨hlength, hall⟩
    have hsub := keys_of_sameMembers ((sameMembers_iff ms ns).mpr hall)
    -- as many keys on both sides, so the same ones
    have hback := keys_subset hms hsub (by rw [List.length_map, List.length_map, hlength])
    refine ⟨fun k => ⟨fun hk => hsub hk, fun hk => hback hk⟩, ?_⟩
    intro k v w hv hw
    obtain ⟨w', hw', hsame⟩ := hall k v ((lookup?_eq_some_iff hms).mp hv)
    rw [hw] at hw'
    cases hw'
    exact hsame
  · rintro ⟨hkeys, hall⟩
    constructor
    · have hperm : (ms.map Prod.fst).Perm (ns.map Prod.fst) :=
        (List.perm_ext_iff_of_nodup hms hns).mpr hkeys
      simpa using hperm.length_eq
    · intro k v hmem
      have hk : k ∈ ns.map Prod.fst := (hkeys k).mp (List.mem_map_of_mem hmem)
      obtain ⟨w, hw⟩ := Option.isSome_iff_exists.mp ((lookup?_isSome k ns).mpr hk)
      exact ⟨w, hw, hall k v w ((lookup?_eq_some_iff hms).mpr hmem) hw⟩

/-- An item of proper items is proper. -/
theorem proper_of_mem {x : Json} {xs : List Json} (hxs : ProperItems xs) (hx : x ∈ xs) :
    x.Proper := by
  induction hx with
  | head => exact hxs.1
  | tail _ _ ih => exact ih hxs.2

theorem properMembers_of_mem {k : String} {v : Json} {ms : List (String × Json)}
    (hms : ProperMembers ms) (hv : (k, v) ∈ ms) : v.Proper := by
  induction ms with
  | nil => cases hv
  | cons m ms ih =>
    obtain ⟨j, w⟩ := m
    rcases List.mem_cons.mp hv with heq | hmem
    · cases heq
      exact hms.1
    · exact ih hms.2 hmem

/-! ## §4. A number in a document replaced by another. -/

/-- The second document is the first one with one number in it replaced, `d` levels down, by a
number that `R` relates to it. -/
inductive Replaced (R : Number → Number → Prop) : Nat → Json → Json → Prop
  | number {m n : Number} (h : R m n) : Replaced R 0 (.num m) (.num n)
  | item {d : Nat} {x y : Json} (before after : List Json) (h : Replaced R d x y) :
      Replaced R (d + 1) (.arr (before ++ x :: after)) (.arr (before ++ y :: after))
  | member {d : Nat} {x y : Json} (key : String) (before after : List (String × Json))
      (h : Replaced R d x y) :
      Replaced R (d + 1) (.obj (before ++ (key, x) :: after)) (.obj (before ++ (key, y) :: after))

/-- Under every key the members are as before, or what was replaced is under it. -/
theorem lookup?_replaced (key : String) (x y : Json) (before after : List (String × Json))
    (k : String) :
    lookup? k (before ++ (key, x) :: after) = lookup? k (before ++ (key, y) :: after) ∨
    (lookup? k (before ++ (key, x) :: after) = some x ∧
      lookup? k (before ++ (key, y) :: after) = some y) := by
  induction before with
  | nil =>
    simp only [List.nil_append, lookup?]
    by_cases hk : key = k
    · rw [if_pos hk, if_pos hk]
      exact .inr ⟨rfl, rfl⟩
    · rw [if_neg hk, if_neg hk]
      exact .inl rfl
  | cons m before ih =>
    obtain ⟨j, v⟩ := m
    simp only [List.cons_append, lookup?]
    by_cases hj : j = k
    · rw [if_pos hj, if_pos hj]
      exact .inl rfl
    · rw [if_neg hj, if_neg hj]
      exact ih

namespace Replaced

variable {d : Nat} {x y : Json}

/-- A document is not the same after a look-alike has taken the place of a number in it. -/
theorem not_same (h : Replaced Number.Lookalike d x y) (hx : x.Proper) : x.same y = false := by
  induction h with
  | number hlook => exact hlook.2
  | @item d x y before after h ih =>
    rw [Bool.eq_false_iff]
    intro hsame
    -- the items at the place of the replacement would be the same
    obtain ⟨-, hall⟩ := (sameItems_iff _ _).mp hsame
    have hxy := hall before.length x y (by simp) (by simp)
    rw [ih (proper_of_mem hx (by simp))] at hxy
    cases hxy
  | @member d x y key before after h ih =>
    rw [Bool.eq_false_iff]
    intro hsame
    obtain ⟨hkeys, hmembers⟩ := hx
    obtain ⟨-, hall⟩ := Bool.and_eq_true _ _ |>.mp hsame
    obtain ⟨w, hw, hxw⟩ := (sameMembers_iff _ _).mp hall key x (by simp)
    -- keys are distinct, so that the member found under the key is the one replaced
    have hkeys' : ((before ++ (key, y) :: after).map Prod.fst).Nodup := by
      simpa using hkeys
    have hy : lookup? key (before ++ (key, y) :: after) = some y :=
      (lookup?_eq_some_iff hkeys').mpr (by simp)
    rw [hy] at hw
    cases hw
    have hmem : (key, x) ∈ before ++ (key, x) :: after := by simp
    rw [ih (properMembers_of_mem hmembers hmem)] at hxw
    cases hxw

/-- Below the top, values are compared as documents. -/
theorem equalValues_eq_same {R : Number → Number → Prop} (h : Replaced R (d + 1) x y) :
    x.equalValues y = x.same y := by
  cases h with
  | item before after h => rfl
  | member key before after h => rfl

/-- **A look-alike passes for the number it replaced at the top of a document,** and nowhere
below. -/
theorem equalValues_iff (h : Replaced Number.Lookalike d x y) (hx : x.Proper) :
    x.equalValues y = true ↔ d = 0 := by
  cases d with
  | zero =>
    cases h with
    | number hlook => exact ⟨fun _ => rfl, fun _ => hlook.1⟩
  | succ d =>
    have hnot : x.equalValues y = false := by
      rw [h.equalValues_eq_same, h.not_same hx]
    simp [hnot]

/-- A number is equal to the same documents after one equal to it by value has taken its place. -/
theorem equalValues_left (h : Replaced Number.ByValue 0 x y) (z : Json) :
    x.equalValues z = y.equalValues z := by
  cases h with
  | @number m n hvalue =>
    cases z with
    | num k => exact Binary64.equal_congr hvalue k.toDouble
    | _ => rfl

/-- **Equality by value does not notice** a number that is replaced at the top. -/
theorem equalValues_right (h : Replaced Number.ByValue 0 x y) (z : Json) :
    z.equalValues x = z.equalValues y := by
  cases h with
  | @number m n hvalue =>
    cases z with
    | num k =>
      show k.toDouble.equal m.toDouble = k.toDouble.equal n.toDouble
      rw [Binary64.equal_comm, Binary64.equal_congr hvalue, Binary64.equal_comm]
    | _ => rfl

end Replaced

/-! ## §5. Symmetry. -/

/-- Of two numbers of one kind either may be asked first. -/
theorem Number.same_comm (m n : Number) : m.same n = n.same m := by
  cases m with
  | int a =>
    cases n with
    | int b => exact BEq.comm
    | float y => rfl
  | float x =>
    cases n with
    | int b => rfl
    | float y => exact Binary64.equal_comm x y

mutual
/-- **What is the same as a document is so in return.** -/
theorem same_symm : ∀ {x y : Json}, x.Proper → y.Proper → x.same y = true → y.same x = true
  | .null, y, _, _, h => by
    cases y <;> first | rfl | cases h
  | .bool a, y, _, _, h => by
    cases y with
    | bool b => exact BEq.comm.trans h
    | _ => cases h
  | .num m, y, _, _, h => by
    cases y with
    | num n => exact (Number.same_comm n m).trans h
    | _ => cases h
  | .str a, y, _, _, h => by
    cases y with
    | str b => exact BEq.comm.trans h
    | _ => cases h
  | .arr xs, y, hx, hy, h => by
    cases y with
    | arr ys => exact sameItems_symm hx hy h
    | _ => cases h
  | .obj ms, y, hx, hy, h => by
    cases y with
    | obj ns =>
      -- equally many keys, all of them in the second object, so all of the second in the first
      obtain ⟨hlength, hmembers⟩ := Bool.and_eq_true _ _ |>.mp h
      have hlength := beq_iff_eq.mp hlength
      have hback := keys_subset hx.1 (keys_of_sameMembers hmembers)
        (by rw [List.length_map, List.length_map, hlength])
      refine Bool.and_eq_true _ _ |>.mpr ⟨beq_iff_eq.mpr hlength.symm, ?_⟩
      refine (sameMembers_iff ns ms).mpr fun k w hmem => ?_
      obtain ⟨v, hv⟩ := Option.isSome_iff_exists.mp
        ((lookup?_isSome k ms).mpr (hback (List.mem_map_of_mem hmem)))
      have hvmem := (lookup?_eq_some_iff hx.1).mp hv
      obtain ⟨w', hw', hsame⟩ := (sameMembers_iff ms ns).mp hmembers k v hvmem
      rw [(lookup?_eq_some_iff hy.1).mpr hmem] at hw'
      cases hw'
      exact ⟨v, hv, sameMember_symm hx.2 hvmem (properMembers_of_mem hy.2 hmem) hsame⟩
    | _ => cases h

/-- Items that are the same as others have these the same as them. -/
theorem sameItems_symm : ∀ {xs ys : List Json}, ProperItems xs → ProperItems ys →
    sameItems xs ys = true → sameItems ys xs = true
  | [], ys, _, _, h => by
    cases ys with
    | nil => rfl
    | cons y ys => cases h
  | x :: xs, ys, hxs, hys, h => by
    cases ys with
    | nil => cases h
    | cons y ys =>
      obtain ⟨hxy, hrest⟩ := Bool.and_eq_true _ _ |>.mp h
      exact Bool.and_eq_true _ _ |>.mpr
        ⟨same_symm hxs.1 hys.1 hxy, sameItems_symm hxs.2 hys.2 hrest⟩

/-- The value of a member is the same as another if that is the same as it. -/
theorem sameMember_symm : ∀ {ms : List (String × Json)} {k : String} {v w : Json},
    ProperMembers ms → (k, v) ∈ ms → w.Proper → v.same w = true → w.same v = true
  | [], _, _, _, _, hmem, _, _ => nomatch hmem
  | (j, u) :: ms, k, v, w, hms, hmem, hw, h => by
    obtain heq | hmem := List.mem_cons.mp hmem
    · cases heq
      exact same_symm hms.1 hw h
    · exact sameMember_symm hms.2 hmem hw h
end

/-- **Equality of values does not depend on which of them is found** and which is expected. -/
theorem equalValues_comm {x y : Json} (hx : x.Proper) (hy : y.Proper) :
    x.equalValues y = y.equalValues x := by
  have hsame : x.same y = y.same x :=
    Bool.eq_iff_iff.mpr ⟨same_symm hx hy, same_symm hy hx⟩
  cases x with
  | num m =>
    cases y with
    | num n => exact Binary64.equal_comm m.toDouble n.toDouble
    | _ => rfl
  | _ => cases y <;> exact hsame

end Json

end SuiteRunner

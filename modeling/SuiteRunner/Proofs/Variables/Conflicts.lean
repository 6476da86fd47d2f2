import Mathlib.Data.List.Perm.Subperm
import Mathlib.Data.Nat.Find
import SuiteRunner.Proofs.Variables.Answers

/-!
  SuiteRunner.Proofs.Variables.Conflicts
  ────────────────────────────────
  **NAMES THAT ARE TAKEN, AND NAMES TO TAKE INSTEAD.**

  A variable that is added under a name that its scope and owner already use is refused, and the
  name with a number after it is suggested in its place.  The numbers are tried from one on.  That
  the search ends is a pigeonhole: each number that is found taken has a row of its own, and so has
  the name without a number.

    • `length_of_taken` — there are no more numbers taken than rows,
    • `exists_firstFree`, `FirstFree.suggestion` — the least free number is the one suggested,
    • `FirstFree.finds` — a search without a bound finds it too, counting in 32 bits,
    • `add_congr` — only names of the same scope and owner are looked at,
    • `add_refusals` — when a registry refuses a variable, and how.
-/

namespace SuiteRunner

open Registry

/-! ## §1. Names of one scope and owner. -/

namespace Slot

/-- The name of a slot. -/
def name : Slot → String
  | .global n => n
  | .perCase _ n => n

/-- The slot of another name of the same scope and owner. -/
def named : Slot → String → Slot
  | .global _, n => .global n
  | .perCase o _, n => .perCase o n

theorem key_name (slot : Slot) : slot.key.name = slot.name := by
  cases slot <;> rfl

theorem named_name (slot : Slot) : slot.named slot.name = slot := by
  cases slot <;> rfl

theorem name_named (slot : Slot) (n : String) : (slot.named n).name = n := by
  cases slot <;> rfl

theorem key_named (slot : Slot) (n : String) :
    (slot.named n).key = { slot.key with name := n } := by
  cases slot <;> rfl

theorem named_inj {slot : Slot} {m n : String} (h : slot.named m = slot.named n) : m = n := by
  rw [← name_named slot m, h, name_named]

end Slot

namespace NewVariable

variable {v : NewVariable} {slot : Slot}

/-- A variable names its owner by two ids that are not empty. -/
def Owned (v : NewVariable) : Prop :=
  ∃ s t, v.suite = some s ∧ v.testCase = some t ∧ s ≠ "" ∧ t ≠ ""

/-- **Only a local variable without an owner asks for no slot.** -/
theorem slot?_eq_none_iff : v.slot? = none ↔ v.scope = .perCase ∧ ¬v.Owned := by
  obtain ⟨name, value, scope, suite, testCase⟩ := v
  unfold slot? Owned
  cases scope with
  | global => simp
  | perCase =>
    cases suite with
    | none => simp
    | some s =>
      cases testCase with
      | none => simp
      | some t => by_cases hs : s = "" <;> by_cases ht : t = "" <;> simp [hs, ht]

/-- Under another name a variable asks for the slot of that name. -/
theorem slot?_renamed (h : v.slot? = some slot) (n : String) :
    { v with name := n }.slot? = some (slot.named n) := by
  obtain ⟨name, value, scope, suite, testCase⟩ := v
  unfold slot? at h ⊢
  cases scope with
  | global => cases h; rfl
  | perCase =>
    cases suite with
    | none => cases h
    | some s =>
      cases testCase with
      | none => cases h
      | some t =>
        dsimp only at h ⊢
        split at h
        · cases h
        · next hfull =>
          cases h
          rw [if_neg hfull]
          rfl

theorem slot?_name (h : v.slot? = some slot) : slot.name = v.name := by
  have hsame : slot.named v.name = slot :=
    Option.some.inj ((slot?_renamed h v.name).symm.trans h)
  rw [← hsame, Slot.name_named]

end NewVariable

namespace Registry

variable {r r' : Registry} {slot : Slot}

/-! ## §2. Numbers. -/

/-- Different numbers make different names. -/
theorem numbered_inj {name : String} {m n : Nat} (h : numbered name m = numbered name n) :
    m = n := by
  have htext : toString m = toString n := by
    rw [← String.toList_inj]
    have hlist := congrArg String.toList h
    unfold numbered at hlist
    simp only [String.toList_append] at hlist
    exact List.append_cancel_left hlist
  have hread := rowNumber?_toString m
  rw [htext, rowNumber?_toString] at hread
  exact (Option.some.inj hread).symm

/-- A name with a number behind it is another name. -/
theorem numbered_ne (name : String) (n : Nat) : numbered name n ≠ name := by
  intro h
  have hlength := congrArg String.length h
  unfold numbered at hlength
  rw [String.length_append, String.length_append] at hlength
  have hone : "_".length = 1 := rfl
  omega

/-- The name of a slot is taken with a number after it. -/
def Taken (r : Registry) (slot : Slot) (n : Nat) : Prop :=
  r.has (slot.named (numbered slot.name n)).key = true

instance (r : Registry) (slot : Slot) (n : Nat) : Decidable (r.Taken slot n) :=
  inferInstanceAs (Decidable (_ = true))

/-- **The least number that is free,** from one on. -/
structure FirstFree (r : Registry) (slot : Slot) (n : Nat) : Prop where
  positive : 1 ≤ n
  free : ¬r.Taken slot n
  least : ∀ m, 1 ≤ m → m < n → r.Taken slot m

/-- **There are no more numbers taken than rows:** each has a row of its own, and if the name
itself is taken, that is one row more. -/
theorem length_of_taken {n : Nat} (hslot : r.has slot.key = true)
    (htaken : ∀ m, 1 ≤ m → m < n → r.Taken slot m) : n ≤ r.rows.length := by
  -- as many rows as names that are taken: their keys are all different and all there
  let keyAt (m : Nat) : RowKey := (slot.named (numbered slot.name m)).key
  let taken : List RowKey := slot.key :: (List.range' 1 (n - 1)).map keyAt
  have hapart : taken.Nodup := by
    refine List.nodup_cons.mpr ⟨fun hmem => ?_, ?_⟩
    · obtain ⟨m, -, hm⟩ := List.mem_map.mp hmem
      have hname := congrArg Slot.name (Slot.key_inj.mp hm)
      rw [Slot.name_named] at hname
      exact numbered_ne slot.name m hname
    · refine List.Nodup.map (fun m m' h => ?_) (List.nodup_range' ..)
      exact numbered_inj (Slot.named_inj (Slot.key_inj.mp h))
  have hrows : taken ⊆ r.keys := by
    intro k hk
    obtain rfl | hk := List.mem_cons.mp hk
    · exact has_iff.mp hslot
    · obtain ⟨m, hm, rfl⟩ := List.mem_map.mp hk
      obtain ⟨hlow, hhigh⟩ := List.mem_range'_1.mp hm
      exact has_iff.mp (htaken m hlow (by omega))
  have hlength := (hapart.subperm hrows).length_le
  unfold keys at hlength
  rw [List.length_cons, List.length_map, List.length_range', List.length_map] at hlength
  omega

/-- **Some number is free,** whatever the registry holds. -/
theorem exists_firstFree (hslot : r.has slot.key = true) : ∃ n, r.FirstFree slot n := by
  have hfree : ∃ n, 1 ≤ n ∧ ¬r.Taken slot n := by
    by_contra hnone
    push Not at hnone
    have hle := length_of_taken hslot (n := r.rows.length + 1) fun m hm _ => hnone m hm
    omega
  obtain ⟨hpositive, hn⟩ := Nat.find_spec hfree
  refine ⟨Nat.find hfree, hpositive, hn, fun m hm hlt => ?_⟩
  by_contra hm'
  exact Nat.find_min hfree hlt ⟨hm, hm'⟩

/-! ## §3. The search. -/

/-- **The least free name is found,** if the search goes far enough. -/
theorem freeName_eq {m : Nat} (hfree : ¬r.Taken slot m) {fuel n : Nat} (hn : n ≤ m)
    (hfuel : m ≤ n + fuel) (htaken : ∀ i, n ≤ i → i < m → r.Taken slot i) :
    r.freeName slot.key fuel n = numbered slot.name m := by
  induction fuel generalizing n with
  | zero =>
    have hlast : n = m := by omega
    unfold freeName
    rw [hlast, Slot.key_name]
  | succ fuel ih =>
    rw [freeName, Slot.key_name, ← Slot.key_named]
    by_cases hlast : n = m
    · rw [hlast]
      exact if_neg hfree
    · refine (if_pos (htaken n le_rfl (by omega))).trans ?_
      exact ih (by omega) (by omega) fun i hi => htaken i (by omega)

/-- **The name that is suggested bears the least free number.** -/
theorem FirstFree.suggestion {n : Nat} (h : r.FirstFree slot n) (hslot : r.has slot.key = true) :
    r.suggestion slot.key = numbered slot.name n := by
  have hle := length_of_taken hslot h.least
  exact freeName_eq h.free h.positive (by omega) h.least

/-- **The search without a bound:** one number after another is tried, and the count must stay
within 32 bits. -/
inductive Finds (r : Registry) (slot : Slot) : Nat → Nat → Prop
  | free {n : Nat} : ¬r.Taken slot n → Finds r slot n n
  | taken {n m : Nat} : r.Taken slot n → n + 1 < 2 ^ 32 → Finds r slot (n + 1) m →
      Finds r slot n m

/-- **The search ends** at the least free number, unless there are more rows than 32 bits can
count. -/
theorem FirstFree.finds {n : Nat} (h : r.FirstFree slot n) (hslot : r.has slot.key = true)
    (hrows : r.rows.length < 2 ^ 32) : r.Finds slot 1 n := by
  have hle := length_of_taken hslot h.least
  suffices ∀ i, i < n → r.Finds slot (n - i) n by
    have hone := this (n - 1) (by have := h.positive; omega)
    rwa [Nat.sub_sub_self h.positive] at hone
  intro i
  induction i with
  | zero => exact fun _ => .free h.free
  | succ i ih =>
    intro hi
    have hnext : n - (i + 1) + 1 = n - i := by omega
    refine .taken (h.least _ (by omega) (by omega)) (by omega) ?_
    rw [hnext]
    exact ih (by omega)

/-! ## §4. Refusals. -/

/-- **Only names of the same scope and owner are looked at:** two registries that use the same ones
refuse a variable alike. -/
theorem add_congr {v : NewVariable}
    (hnames : ∀ slot, v.slot? = some slot →
      ∀ name, r'.has (slot.named name).key = r.has (slot.named name).key)
    {now : Int} {f : Failure} (h : r.add v false now = .error f) :
    r'.add v false now = .error f := by
  cases hv : v.slot? with
  | none => rwa [add_of_none r' hv, ← add_of_none r hv false now]
  | some slot =>
    have hsame := hnames slot hv
    have hown := hsame slot.name
    rw [Slot.named_name] at hown
    cases hslot : r.has slot.key with
    | false =>
      rw [add_written r hv (.inl hslot)] at h
      cases h
    | true =>
      rw [hslot] at hown
      -- the least free number is the same, although the bound of the search may not be
      obtain ⟨n, hn⟩ := exists_firstFree hslot
      have hn' : r'.FirstFree slot n := by
        refine ⟨hn.positive, ?_, fun m hm hlt => ?_⟩
        · show ¬r'.has _ = true
          rw [hsame]
          exact hn.free
        · exact (hsame _).trans (hn.least m hm hlt)
      rw [add_of_taken r' hv hown, hn'.suggestion hown, ← hn.suggestion hslot,
        ← add_of_taken r hv hslot now, h]

/-- A variable that is written under a free name gets a row there. -/
theorem add_of_free {v : NewVariable} (hv : v.slot? = some slot) (hfree : r.has slot.key = false)
    (now : Int) :
    ∃ row, r.add v false now = .ok (row, r.put slot.key v.value now) ∧
      row.entry = (slot, v.value) :=
  ⟨_, add_written r hv (.inl hfree) now, written_entry r slot v.value now⟩

/-- **WHAT A REGISTRY REFUSES.**  For any rows and any variable:

  1. a name that its scope and owner already use is refused, and the name with the least number
     that is free there is suggested.  Adding the variable under that name, at any time, makes a
     row.  The number is found by trying one after another, if fewer rows than `2 ^ 32` are there;
  2. a name that they do not use is never refused;
  3. a local variable without two ids that are not empty is refused, whether it is added or set;
  4. names of another scope or owner play no part: a registry with the same names in this one
     refuses the same, in the same words.

Whatever is refused leaves the registry as it was. -/
theorem add_refusals (r : Registry) (v : NewVariable) (now : Int64) :
    (∀ slot, v.slot? = some slot → r.has slot.key = true →
      ∃ n, r.FirstFree slot n ∧ (r.rows.length < 2 ^ 32 → r.Finds slot 1 n) ∧
        r.add v false now.toInt
          = .error (.variableConflict v.name v.scope (numbered v.name n)) ∧
        r.after (.add v false now) = some r ∧
        ∀ later : Int64, ∃ row,
          r.add { v with name := numbered v.name n } false later.toInt
            = .ok (row, r.put (slot.named (numbered v.name n)).key v.value later.toInt) ∧
          row.entry = (slot.named (numbered v.name n), v.value)) ∧
    (∀ slot, v.slot? = some slot → r.has slot.key = false →
      ∃ row, r.add v false now.toInt = .ok (row, r.put slot.key v.value now.toInt) ∧
        row.entry = (slot, v.value)) ∧
    (v.scope = .perCase → ¬v.Owned →
      (r.set v now.toInt = .error (.missingOwner v.name) ∧ r.after (.set v now) = some r) ∧
      ∀ override, r.add v override now.toInt = .error (.missingOwner v.name) ∧
        r.after (.add v override now) = some r) ∧
    (∀ r' : Registry,
      (∀ slot, v.slot? = some slot →
        ∀ name, r'.has (slot.named name).key = r.has (slot.named name).key) →
      ∀ f, r'.add v false now.toInt = .error f ↔ r.add v false now.toInt = .error f) := by
  refine ⟨fun slot hv hslot => ?_, fun slot hv hfree => add_of_free hv hfree now.toInt,
    fun hscope howner => ?_, fun r' hnames f => ⟨add_congr ?_, add_congr hnames⟩⟩
  · -- the name is taken: what is suggested is the first free number
    obtain ⟨n, hn⟩ := exists_firstFree hslot
    have hname := NewVariable.slot?_name hv
    refine ⟨n, hn, hn.finds hslot, ?_, ?_, fun later => ?_⟩
    · rw [add_of_taken r hv hslot, hn.suggestion hslot, hname]
    · rw [after_add, hv]
      dsimp only
      rw [hslot]
      rfl
    · have hfree := hn.free
      rw [Taken, hname, Bool.not_eq_true] at hfree
      exact add_of_free (NewVariable.slot?_renamed hv _) hfree later.toInt
  · -- an owner is missing: there is no slot to write to
    have hv := NewVariable.slot?_eq_none_iff.mpr ⟨hscope, howner⟩
    refine ⟨⟨set_of_none r hv now.toInt, ?_⟩, fun override => ⟨add_of_none r hv override _, ?_⟩⟩
    · rw [after_set, hv]
    · rw [after_add, hv]
  · exact fun slot hv name => (hnames slot hv name).symm

/-- A registry in which a name and the same name with a number are taken. -/
def numberedTokens : Registry :=
  ⟨[⟨1, globalKey "token", "", 0, 0⟩, ⟨2, globalKey "token_1", "", 0, 0⟩], 3⟩

/-- The same names, and one more that an owner uses. -/
def ownedToken : Registry :=
  ⟨numberedTokens.rows ++ [⟨3, localKey ⟨"shop", "login"⟩ "token_2", "", 0, 0⟩], 4⟩

/-- What an owner calls `token_2` is no obstacle to a global variable of that name. -/
theorem add_refusals_token :
    ownedToken.Finds (.global "token") 1 2 ∧
    ownedToken.add ⟨"token", "new", .global, none, none⟩ false (7 : Int64).toInt
      = .error (.variableConflict "token" .global "token_2") ∧
    numberedTokens.add ⟨"token", "new", .global, none, none⟩ false (7 : Int64).toInt
      = .error (.variableConflict "token" .global "token_2") ∧
    (∃ row r, ownedToken.add ⟨"token_2", "new", .global, none, none⟩ false (8 : Int64).toInt
      = .ok (row, r) ∧ row.entry = (.global "token_2", "new")) ∧
    (∃ row r, ownedToken.add ⟨"user", "ada", .global, none, none⟩ false (7 : Int64).toInt
      = .ok (row, r) ∧ row.entry = (.global "user", "ada")) ∧
    ownedToken.add ⟨"token", "new", .perCase, some "shop", some ""⟩ true (7 : Int64).toInt
      = .error (.missingOwner "token") := by
  let taken : NewVariable := ⟨"token", "new", .global, none, none⟩
  let free : NewVariable := ⟨"user", "ada", .global, none, none⟩
  let unowned : NewVariable := ⟨"token", "new", .perCase, some "shop", some ""⟩
  have hsame : ∀ slot, taken.slot? = some slot → ∀ name,
      numberedTokens.has (slot.named name).key = ownedToken.has (slot.named name).key := by
    rintro slot hslot name
    cases hslot
    have hother : (localKey ⟨"shop", "login"⟩ "token_2" == globalKey name) = false := rfl
    show (List.find? _ _).isSome = (List.find? _ _).isSome
    simp [Slot.named, Slot.key, ownedToken, hother]
  have hunowned : ¬unowned.Owned := by
    rintro ⟨s, t, -, ht, -, hempty⟩
    cases ht
    exact hempty rfl
  obtain ⟨hrefused, -, -, hcongr⟩ := add_refusals ownedToken taken 7
  obtain ⟨n, hn, hfinds, hconflict, -, hsuggested⟩ := hrefused (.global "token") rfl (by decide)
  obtain ⟨row, hrow, hentry⟩ := hsuggested 8
  -- the least free number is two, since one is taken and two is free
  have htwo : n = 2 := by
    have hone : n ≠ 1 := fun h => hn.free (h ▸ (by decide))
    have hmost : ¬2 < n := fun h => absurd (hn.least 2 (by decide) h) (by decide)
    have hpositive := hn.positive
    omega
  subst htwo
  obtain ⟨row', hrow', hentry'⟩ := (add_refusals ownedToken free 7).2.1 (.global "user") rfl
    (by decide)
  have hmissing := ((add_refusals ownedToken unowned 7).2.2.1 rfl hunowned).2 true
  exact ⟨hfinds (by decide), hconflict, (hcongr numberedTokens hsame _).mpr hconflict,
    ⟨row, _, hrow, hentry⟩, ⟨row', _, hrow', hentry'⟩, hmissing.1⟩

end Registry

end SuiteRunner

import SuiteRunner.Assertion.OnJson
import SuiteRunner.Proofs.Json.Numbers
import SuiteRunner.Proofs.Number.Rounding

/-!
  SuiteRunner.Proofs.Assertion.Integers
  ────────────────────────────────
  **HOW ASSERTIONS COMPARE INTEGERS.**

  A document keeps integers of 64 bits, but all comparisons turn them into doubles first.  What
  they see of two integers is therefore the order of the nearest doubles:

    • `Assertion.passes_iff` — an assertion passes when its verdict is without error,
    • `Assertion.passes_asking` — most kinds pass when a test holds of the value found,
    • `Assertion.holds_ofInt` — **each comparison holds of the nearest doubles,**
    • `Assertion.between_nearest_iff` — when that is the comparison of the integers themselves,
    • `Assertion.integers_compared` — what that means for assertions on a body.
-/

namespace SuiteRunner

open Binary64 (nearest)
open Reading (Fits)

/-! ## §1. Values. -/

theorem Json.natAbs_lt_of_fits {n : Int} (h : Fits n) : n.natAbs < 2 ^ 64 := by
  unfold Fits at h
  omega

/-- Integers are equal as values when they have one nearest double. -/
theorem Json.equalValues_ofInt {a e : Int} (ha : Fits a) (he : Fits e) :
    (ofInt a).equalValues (ofInt e) = true ↔ nearest a = nearest e :=
  Binary64.equal_ofInt (natAbs_lt_of_fits ha) (natAbs_lt_of_fits he)

namespace Assertion

/-! ## §2. Which comparison holds. -/

/-- The kinds that compare a value with a number. -/
def comparisons : List AssertionKind := [.equals, .greaterThan, .lessThan]

/-- The one of them that holds between two integers. -/
def between (a e : Int) : AssertionKind :=
  if a = e then .equals else if e < a then .greaterThan else .lessThan

theorem between_mem (a e : Int) : between a e ∈ comparisons := by
  unfold between comparisons
  split_ifs <;> simp

theorem equals_eq_between {a e : Int} : AssertionKind.equals = between a e ↔ a = e := by
  unfold between
  split_ifs with heq hgt <;> simp [heq]

theorem greaterThan_eq_between {a e : Int} : AssertionKind.greaterThan = between a e ↔ e < a := by
  unfold between
  split_ifs with heq hgt
  · simp [heq]
  · simp [hgt]
  · simp [hgt]

theorem lessThan_eq_between {a e : Int} : AssertionKind.lessThan = between a e ↔ a < e := by
  unfold between
  split_ifs with heq hgt
  · simp [heq]
  · simp
    omega
  · simp
    omega

/-- **The nearest doubles compare as the integers do,** unless they are one double and the
integers are two. -/
theorem between_nearest_iff (a e : Int) :
    between a e = between (nearest a) (nearest e) ↔ a = e ∨ nearest a ≠ nearest e := by
  rcases Int.lt_trichotomy a e with hlt | rfl | hgt
  · have hmono := Binary64.nearest_mono (Int.le_of_lt hlt)
    rw [lessThan_eq_between.mpr hlt |>.symm, lessThan_eq_between]
    omega
  · unfold between
    simp
  · have hmono := Binary64.nearest_mono (Int.le_of_lt hgt)
    rw [greaterThan_eq_between.mpr hgt |>.symm, greaterThan_eq_between]
    omega

/-- **Each comparison of two integers holds exactly when it is the one between their nearest
doubles.** -/
theorem holds_ofInt {a e : Int} (ha : Fits a) (he : Fits e) {k : AssertionKind}
    (hk : k ∈ comparisons) :
    holds k (some (.ofInt a)) (.ofInt e) = true ↔ k = between (nearest a) (nearest e) := by
  have ha' := Json.natAbs_lt_of_fits ha
  have he' := Json.natAbs_lt_of_fits he
  simp only [comparisons, List.mem_cons, List.not_mem_nil, or_false] at hk
  rcases hk with rfl | rfl | rfl
  · rw [equals_eq_between, ← Json.equalValues_ofInt ha he]
    show (some ((Json.ofInt a).equalValues (.ofInt e)) == some true) = true ↔ _
    rw [beq_iff_eq, Option.some.injEq]
  · rw [greaterThan_eq_between]
    exact Binary64.less_ofInt he' ha'
  · rw [lessThan_eq_between]
    exact Binary64.less_ofInt ha' he'

/-! ## §3. Assertions on a body. -/

variable (o : Owner) (s : Store) (status : Nat) (doc : Json)

/-- The assertion passes on a JSON body. -/
def Passes (a : Assertion) : Prop := (evaluateOnJson o (some doc) status [a] s).1 = { passed := 1 }

instance (a : Assertion) : Decidable (Passes o s status doc a) :=
  inferInstanceAs (Decidable (_ = _))

/-- An assertion passes when its verdict, on what its expected value stands for, is without error. -/
theorem passes_iff (a : Assertion) :
    Passes o s status doc a
      ↔ a.checkJson (Store.injectJson o a.expected s).1 (some doc) status = .ok () := by
  show Outcome.record .empty (a.checkJson (Store.injectJson o a.expected s).1 (some doc) status)
    = { passed := 1 } ↔ _
  cases a.checkJson (Store.injectJson o a.expected s).1 (some doc) status with
  | ok u =>
    cases u
    simp [Outcome.record, Outcome.empty]
  | error message => simp [Outcome.record, Outcome.fail, Outcome.empty]

/-- The assertion with another kind, another path and another expected value. -/
def asking (x : Assertion) (k : AssertionKind) (path : String) (expected : Json) : Assertion :=
  { x with kind := k, jsonPath := some path, expected := expected }

/-- **An assertion passes when its test holds** of the value found, unless its kind asks for more
than one test. -/
theorem passes_asking {doc : Json} {path : String} {found : Option Json}
    (hfound : JsonPath.select doc path = .ok found) (x : Assertion) (expected : Json)
    {k : AssertionKind} (hk : k ∉ [.statusCode, .regex, .arrayObjectMatch]) :
    Passes o s status doc (x.asking k path expected) ↔
      holds k found (Store.injectJson o expected s).1 = true := by
  rw [passes_iff]
  cases k <;> first
    | exact absurd (by decide) hk
    | simp only [asking, checkJson, hfound, checkFound]
      split_ifs with h <;> simp [h]

/-- The assertion with another comparison, of what a path selects with an integer. -/
def comparing (x : Assertion) (k : AssertionKind) (path : String) (e : Int) : Assertion :=
  { x with kind := k, jsonPath := some path, expected := .ofInt e }

/-- A comparison passes when it holds of the value found. -/
theorem passes_comparing {doc : Json} {path : String} {found : Option Json}
    (hfound : JsonPath.select doc path = .ok found) (x : Assertion) (e : Int)
    {k : AssertionKind} (hk : k ∈ comparisons) :
    Passes o s status doc (x.comparing k path e) ↔ holds k found (.ofInt e) = true := by
  refine passes_asking o s status hfound x (.ofInt e) ?_
  simp only [comparisons, List.mem_cons, List.not_mem_nil, or_false] at hk
  rcases hk with rfl | rfl | rfl <;> decide

/-- **Assertions compare integers as their nearest doubles compare.**  Of the three comparisons
with `e` exactly one passes where a path selects the integer `a`.  It is the one that holds between
`a` and `e` unless the two differ and share one double; they do not if both are at most `2 ^ 53` in
size, or if they are more than `2 ^ 11` apart. -/
theorem integers_compared {doc : Json} {path : String} {a e : Int} (ha : Fits a) (he : Fits e)
    (hfound : JsonPath.select doc path = .ok (some (.ofInt a))) (x : Assertion) :
    between (nearest a) (nearest e) ∈ comparisons ∧
    (∀ k ∈ comparisons,
      Passes o s status doc (x.comparing k path e) ↔ k = between (nearest a) (nearest e)) ∧
    (Passes o s status doc (x.comparing (between a e) path e) ↔
      a = e ∨ nearest a ≠ nearest e) ∧
    ((Json.ofInt a).equalValues (.ofInt e) = true ↔ nearest a = nearest e) ∧
    (a.natAbs ≤ 2 ^ 53 ∧ e.natAbs ≤ 2 ^ 53 ∨ 2 ^ 11 < (a - e).natAbs →
      Passes o s status doc (x.comparing (between a e) path e) ∧
      ((Json.ofInt a).equalValues (.ofInt e) = true ↔ a = e)) := by
  -- comparisons see the nearest doubles alone
  have hpasses : ∀ k ∈ comparisons,
      Passes o s status doc (x.comparing k path e) ↔ k = between (nearest a) (nearest e) := by
    intro k hk
    rw [← holds_ofInt ha he hk]
    exact passes_comparing o s status hfound x e hk
  have hright : Passes o s status doc (x.comparing (between a e) path e) ↔
      a = e ∨ nearest a ≠ nearest e := by
    rw [← between_nearest_iff]
    exact hpasses _ (between_mem a e)
  have hequal := Json.equalValues_ofInt ha he
  refine ⟨between_mem _ _, hpasses, hright, hequal, ?_⟩
  intro hapart
  -- small integers are doubles themselves, and integers far apart have different ones
  have happart : a = e ∨ nearest a ≠ nearest e := by
    rcases hapart with ⟨hsmall, hsmall'⟩ | hfar
    · rw [Binary64.nearest_eq_self hsmall, Binary64.nearest_eq_self hsmall']
      exact Decidable.em (a = e)
    · exact .inr (Binary64.nearest_ne_of_far (Json.natAbs_lt_of_fits ha)
        (Json.natAbs_lt_of_fits he) hfar)
  refine ⟨hright.mpr happart, ?_⟩
  rw [hequal]
  exact ⟨fun hnearest => happart.resolve_right fun hne => hne hnearest, congrArg nearest⟩

/-- A body with an integer above `2 ^ 53`. -/
def counted : Json := .obj [("n", .ofInt 9007199254740993)]

theorem integers_compared_counted :
    Fits 9007199254740993 ∧ Fits 9007199254740996 ∧
    JsonPath.select counted "$.n" = .ok (some (.ofInt 9007199254740993)) ∧
    Passes ⟨"s", "c"⟩ (.ofRegistry none) 200 counted
      (Assertion.comparing {} .lessThan "$.n" 9007199254740996) := by
  have ha : Fits 9007199254740993 := ⟨by decide, by decide⟩
  have he : Fits 9007199254740996 := ⟨by decide, by decide⟩
  have hfound : JsonPath.select counted "$.n" = .ok (some (.ofInt 9007199254740993)) := rfl
  have hcompared := integers_compared ⟨"s", "c"⟩ (.ofRegistry none) 200 ha he hfound {}
  exact ⟨ha, he, hfound, (hcompared.2.1 .lessThan (by decide)).mpr (by decide)⟩

/-- Two integers that differ by one and share one double: they pass as equal, and the greater one
does not pass as greater. -/
theorem neighbours_pass_as_equal :
    JsonPath.select counted "$.n" = .ok (some (.ofInt 9007199254740993)) ∧
    Passes ⟨"s", "c"⟩ (.ofRegistry none) 200 counted
      (Assertion.comparing {} .equals "$.n" 9007199254740992) ∧
    ¬ Passes ⟨"s", "c"⟩ (.ofRegistry none) 200 counted
      (Assertion.comparing {} .greaterThan "$.n" 9007199254740992) ∧
    (Json.ofInt 9007199254740993).equalValues (.ofInt 9007199254740992) = true := by
  exact ⟨rfl, by decide +kernel⟩

end Assertion

end SuiteRunner

import SuiteRunner.Proofs.Assertion.Integers
import SuiteRunner.Proofs.Assertion.Verdicts
import SuiteRunner.Proofs.Json.Equality
import SuiteRunner.Proofs.Variables.Structure

/-!
  SuiteRunner.Proofs.Assertion.Kinds
  ────────────────────────────────
  **HOW THE KINDS OF ASSERTIONS GO TOGETHER.**

  Some kinds deny what others say, and some say of a list what another says of one value.  All of
  this is about `holds`, the test on the value found; `passes_asking` carries it to assertions.

    • `holds_notEquals`, `holds_notIn`, `holds_exists_false` — of two kinds exactly one holds,
    • `holds_includesAll` — a list is included if the value found is one and contains each value,
    • `holds_isIn_iff` — to be among values and to contain a value are the same from two sides,
    • `kinds_agree` — all of it, for assertions on any body.
-/

namespace SuiteRunner

namespace Assertion

open Store (injectJson looks_injectJson)
open Template (injectJsonBy)

/-! ## §1. Tests on the value found. -/

theorem holds_notEquals (found : Option Json) (expected : Json) :
    holds .notEquals found expected = !holds .equals found expected := rfl

theorem holds_notIn (found : Option Json) (expected : Json) :
    holds .notIn found expected = !holds .isIn found expected := rfl

/-- To be missing is not to be there. -/
theorem holds_exists_false (found : Option Json) :
    holds .exists_ found (.bool false) = !holds .exists_ found (.bool true) := by
  cases found <;> rfl

/-- **A list is included** if what was found is an array that contains each value of the list. -/
theorem holds_includesAll (found : Option Json) (wanted : List Json) :
    holds .includesAll found (.arr wanted) = true ↔
      (∃ items, found = some (.arr items)) ∧
        ∀ w ∈ wanted, holds .contains found w = true := by
  by_cases hfound : ∃ items, found = some (.arr items)
  · obtain ⟨items, rfl⟩ := hfound
    show wanted.all (anyEqual items) = true ↔ _
    rw [List.all_eq_true]
    exact ⟨fun h => ⟨⟨items, rfl⟩, h⟩, fun h => h.2⟩
  · have hnone : holds .includesAll found (.arr wanted) = false := by
      cases found with
      | none => rfl
      | some v =>
        cases v with
        | arr items => exact absurd ⟨items, rfl⟩ hfound
        | _ => rfl
    rw [hnone]
    exact ⟨fun h => (nomatch h), fun h => absurd h.1 hfound⟩

/-- **To be among values and to contain a value** are the same, said of the one and of the other. -/
theorem holds_isIn_iff {a : Json} {options : List Json} (ha : a.Proper)
    (hoptions : Json.ProperItems options) :
    holds .isIn (some a) (.arr options) = holds .contains (some (.arr options)) a := by
  show options.any (fun option => a.equalValues option) = options.any fun i => i.equalValues a
  rw [Bool.eq_iff_iff, List.any_eq_true, List.any_eq_true]
  refine exists_congr fun option => and_congr_right fun hmem => ?_
  rw [Json.equalValues_comm ha (Json.proper_of_mem hoptions hmem)]

/-! ## §2. Assertions. -/

section

variable (o : Owner) (s : Store) (status : Nat) {doc : Json} {path : String} {found : Option Json}

/-- A kind that holds where another does not passes where the other does not. -/
theorem passes_iff_not (hfound : JsonPath.select doc path = .ok found) (x : Assertion)
    {k k' : AssertionKind} {e e' : Json} (hk : k ∉ [.statusCode, .regex, .arrayObjectMatch])
    (hk' : k' ∉ [.statusCode, .regex, .arrayObjectMatch])
    (hholds : holds k' found (injectJson o e' s).1 = !holds k found (injectJson o e s).1) :
    Passes o s status doc (x.asking k path e) ↔ ¬Passes o s status doc (x.asking k' path e') := by
  rw [passes_asking o s status hfound x e hk, passes_asking o s status hfound x e' hk', hholds]
  simp

/-- **To include all values** is to contain each of them, and to be an array. -/
theorem passes_includesAll (hfound : JsonPath.select doc path = .ok found) (x : Assertion)
    (wanted : List Json) :
    Passes o s status doc (x.asking .includesAll path (.arr wanted)) ↔
      (∃ items, found = some (.arr items)) ∧
        ∀ w ∈ wanted, Passes o s status doc (x.asking .contains path w) := by
  rw [passes_asking o s status hfound x _ (by decide), (looks_injectJson o _).value]
  show holds .includesAll found (.arr (Template.injectItemsBy (s.reads o) wanted)) = true ↔ _
  rw [holds_includesAll, Template.injectItemsBy_eq_map]
  refine and_congr_right fun _ => ?_
  rw [List.forall_mem_map]
  refine forall₂_congr fun w _ => ?_
  rw [passes_asking o s status hfound x w (by decide), (looks_injectJson o w).value]

/-- A value without placeholders is among others exactly if they contain it. -/
theorem passes_isIn_iff {doc' : Json} {path' : String} {a : Json} {options : List Json}
    (hfound : JsonPath.select doc path = .ok (some a))
    (hoptions : JsonPath.select doc' path' = .ok (some (.arr options))) (ha : a.Proper)
    (hproper : Json.ProperItems options) (hliteral : a.Literal)
    (hliterals : Json.LiteralItems options) (x x' : Assertion) :
    Passes o s status doc (x.asking .isIn path (.arr options)) ↔
      Passes o s status doc' (x'.asking .contains path' a) := by
  have hlist : (injectJson o (.arr options) s).1 = .arr options := by
    rw [(looks_injectJson o _).value]
    exact Json.Literal.injectJsonBy (s.reads o) (v := .arr options) hliterals hproper
  have hvalue : (injectJson o a s).1 = a := by
    rw [(looks_injectJson o a).value]
    exact Json.Literal.injectJsonBy (s.reads o) hliteral ha
  rw [passes_asking o s status hfound x _ (by decide), hlist,
    passes_asking o s status hoptions x' _ (by decide), hvalue, holds_isIn_iff ha hproper]

end

/-- **WHAT ASSERTIONS OWE EACH OTHER.**  For any variables and any status:

  1. each assertion has one verdict, the one it gets when it is alone, and the outcome of a list
     counts these verdicts and keeps their errors in order, one for each that failed;
  2. of `equals` and `notEquals`, of `isIn` and `notIn`, and of `exists_` with true and with false
     exactly one passes, wherever the path is one, and `includesAll` passes exactly if an array was
     selected and `contains` passes for every value of the list;
  3. of a value and a list without placeholders, in which no object has a key twice, that the value
     is in the list and that the list contains the value pass together. -/
theorem kinds_agree (o : Owner) (s : Store) (status : Nat) :
    (∀ body : Option Json, ∃ verdict : Assertion → Verdict,
      (∀ a, (evaluateOnJson o body status [a] s).1 = .ofVerdicts [verdict a]) ∧
      ∀ as_ : List Assertion,
        let outcome := (evaluateOnJson o body status as_ s).1
        outcome = .ofVerdicts (as_.map verdict) ∧
        outcome.passed + outcome.failed = as_.length ∧
        outcome.failed = outcome.errors.length ∧
        outcome.errors = as_.filterMap fun a => Outcome.error? (verdict a)) ∧
    (∀ (doc : Json) (path : String) (found : Option Json), JsonPath.select doc path = .ok found →
      ∀ x : Assertion,
        (∀ e, Passes o s status doc (x.asking .equals path e) ↔
          ¬Passes o s status doc (x.asking .notEquals path e)) ∧
        (∀ e, Passes o s status doc (x.asking .isIn path e) ↔
          ¬Passes o s status doc (x.asking .notIn path e)) ∧
        (Passes o s status doc (x.asking .exists_ path (.bool true)) ↔
          ¬Passes o s status doc (x.asking .exists_ path (.bool false))) ∧
        ∀ wanted : List Json,
          Passes o s status doc (x.asking .includesAll path (.arr wanted)) ↔
            (∃ items, found = some (.arr items)) ∧
              ∀ w ∈ wanted, Passes o s status doc (x.asking .contains path w)) ∧
    ∀ (doc doc' : Json) (path path' : String) (a : Json) (options : List Json),
      JsonPath.select doc path = .ok (some a) →
      JsonPath.select doc' path' = .ok (some (.arr options)) →
      a.Proper → Json.ProperItems options → a.Literal → Json.LiteralItems options →
      ∀ x x' : Assertion,
        Passes o s status doc (x.asking .isIn path (.arr options)) ↔
          Passes o s status doc' (x'.asking .contains path' a) := by
  refine ⟨fun body => ⟨verdictBy status body (s.reads o), fun a => ?_, fun as_ => ?_⟩,
    fun doc path found hfound x => ⟨fun e => ?_, fun e => ?_, ?_, fun wanted => ?_⟩,
    fun doc doc' path path' a options hfound hoptions ha hproper hliteral hliterals =>
      passes_isIn_iff o s status hfound hoptions ha hproper hliteral hliterals⟩
  · -- assertions only look variables up, so each has its verdict from what is read at first
    exact (looks_evaluateOnJson o status body [a]).value s
  · have houtcome := (looks_evaluateOnJson o status body as_).value s
    refine ⟨houtcome, ?_, ?_, ?_⟩
    · exact total_evaluateOnJson o body status as_ s
    · rw [houtcome, Outcome.ofVerdicts_eq]
    · rw [houtcome, Outcome.ofVerdicts_eq]
      exact List.filterMap_map
  · -- of two kinds that deny each other, one holds
    exact passes_iff_not o s status hfound x (by decide) (by decide) (holds_notEquals found _)
  · exact passes_iff_not o s status hfound x (by decide) (by decide) (holds_notIn found _)
  · exact passes_iff_not o s status hfound x (by decide) (by decide) (holds_exists_false found)
  · exact passes_includesAll o s status hfound x wanted

/-- A body with a role, and a list that has it. -/
def rolesBody : Json := .obj [("role", .str "ops"), ("roles", .arr [.str "admin", .str "ops"])]

theorem kinds_agree_roles :
    let roles : List Json := [.str "admin", .str "ops"]
    let Passes := Passes ⟨"s", "c"⟩ (.ofRegistry none) 200 rolesBody
    JsonPath.select rolesBody "$.role" = .ok (some (.str "ops")) ∧
    JsonPath.select rolesBody "$.roles" = .ok (some (.arr roles)) ∧
    Passes (Assertion.asking {} .contains "$.roles" (.str "ops")) ∧
    Passes (Assertion.asking {} .isIn "$.role" (.arr roles)) ∧
    ¬Passes (Assertion.asking {} .notIn "$.role" (.arr roles)) ∧
    Passes (Assertion.asking {} .includesAll "$.roles" (.arr [.str "ops"])) := by
  have hrole : JsonPath.select rolesBody "$.role" = .ok (some (.str "ops")) := by cbv
  have hroles : JsonPath.select rolesBody "$.roles"
      = .ok (some (.arr [.str "admin", .str "ops"])) := by cbv
  have hops : Template.Literal "ops" := Template.literal_of_no_braces (by decide)
  have hadmin : Template.Literal "admin" := Template.literal_of_no_braces (by decide)
  obtain ⟨-, hduals, htwo⟩ := kinds_agree ⟨"s", "c"⟩ (.ofRegistry none) 200
  have hcontains : Passes ⟨"s", "c"⟩ (.ofRegistry none) 200 rolesBody
      (Assertion.asking {} .contains "$.roles" (.str "ops")) := by decide +kernel
  have hin : Passes ⟨"s", "c"⟩ (.ofRegistry none) 200 rolesBody
      (Assertion.asking {} .isIn "$.role" (.arr [.str "admin", .str "ops"])) :=
    (htwo rolesBody rolesBody "$.role" "$.roles" _ _ hrole hroles trivial
      ⟨trivial, trivial, trivial⟩ hops ⟨hadmin, hops, trivial⟩ {} {}).mpr hcontains
  have hnotIn := fun hnot => ((hduals rolesBody "$.role" _ hrole {}).2.1 _).mp hin hnot
  have hall : Passes ⟨"s", "c"⟩ (.ofRegistry none) 200 rolesBody
      (Assertion.asking {} .includesAll "$.roles" (.arr [.str "ops"])) := by
    refine ((hduals rolesBody "$.roles" _ hroles {}).2.2.2 [.str "ops"]).mpr ⟨⟨_, rfl⟩, ?_⟩
    intro w hw
    obtain rfl := List.mem_singleton.mp hw
    exact hcontains
  exact ⟨hrole, hroles, hcontains, hin, hnotIn, hall⟩

end Assertion

end SuiteRunner

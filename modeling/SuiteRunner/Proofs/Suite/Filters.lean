import SuiteRunner.Proofs.Text.Cutting
import SuiteRunner.Proofs.Text.SortedMaps
import SuiteRunner.Suite.Filter

/-!
  SuiteRunner.Proofs.Suite.Filters
  ────────────────────────────────
  **THE ALGEBRA OF FILTERS, AND WHICH ARGUMENTS COUNT.**

  A suite passes filters if it passes each of them, and the value of a tag filter is a list of
  terms, each of which asks for a tag or forbids it.  Hence the laws:

    • `passes_iff` — filters are a conjunction,
    • `satisfies_comma` — so are the terms between commas,
    • `satisfies_term`, `satisfies_negated` — a term and its negation ask for one tag,
    • `passes_congr` — of the tags only the set of keys and values counts,
    • `filter_algebra` — the four together.

  Filters come as arguments, each a key and a value, and all of them go into one map.  So of several
  arguments with one key the last takes the place of the others, and nothing is said of those:

    • `filterArgument_eq` — what an argument says, and when it is refused,
    • `filterPairs_eq` — arguments are read up to the first that is refused,
    • `passes_arguments_iff` — a suite passes exactly if it passes the last argument of each key,
    • `last_of_key_counts` — so every argument counts where no key comes twice, and a list is
      refused for its first bad argument,
    • `first_of_key_forgotten` — where a key comes twice, a suite can pass without what the first
      argument asks.
-/

namespace SuiteRunner

open SuiteRunner.Text (Tight)

/-- The filter with one key. -/
def singleFilter (key value : String) : SuiteFilters := TextMap.empty.insert key value

/-- A key of tags: any but the two that have a meaning of their own. -/
def IsTagKey (key : String) : Prop := key ≠ "applicationName" ∧ key ≠ "testType"

/-- **One term that asks for a tag:** not empty, without commas, without blanks at its ends and
without an exclamation mark in front. -/
structure IsTerm (term : String) : Prop where
  nonempty : term ≠ ""
  single : ',' ∉ term.toList
  tight : Tight term.toList
  positive : term.toList.head? ≠ some '!'

namespace Suite

variable (s : Suite)

/-! ## §1. Conjunctions. -/

/-- **All filters must hold,** each on its own. -/
theorem passes_iff (f : SuiteFilters) :
    s.passes f = true ↔ ∀ e ∈ f.entries, s.satisfies e.1 e.2 = true := List.all_eq_true

theorem passes_single (key value : String) :
    s.passes (singleFilter key value) = s.satisfies key value := Bool.and_true _

/-! ## §2. Terms. -/

/-- A filter by a tag asks for all its terms. -/
theorem satisfies_tag {key : String} (hkey : IsTagKey key) (value : String) :
    s.satisfies key value = (filterTerms value).all (s.satisfiesTerm key) := by
  unfold satisfies
  rw [if_neg hkey.1, if_neg hkey.2]

/-- A comma parts terms. -/
theorem filterTerms_comma (v w : String) :
    filterTerms (v ++ "," ++ w) = filterTerms v ++ filterTerms w := by
  have htext : (v ++ "," ++ w).toList = v.toList ++ ',' :: w.toList := by simp
  unfold filterTerms Text.split
  rw [htext, show ",".toList = [','] from rfl, Text.splitChars_append, List.map_append,
    List.map_append, List.filter_append]

/-- **Terms between commas are a conjunction.** -/
theorem satisfies_comma {key : String} (hkey : IsTagKey key) (v w : String) :
    s.satisfies key (v ++ "," ++ w) = (s.satisfies key v && s.satisfies key w) := by
  rw [satisfies_tag s hkey, satisfies_tag s hkey, satisfies_tag s hkey, filterTerms_comma,
    List.all_append]

/-- A value that is one term. -/
theorem filterTerms_single {value : String} (hne : value ≠ "") (hcomma : ',' ∉ value.toList)
    (htight : Tight value.toList) : filterTerms value = [value] := by
  unfold filterTerms Text.split
  rw [Text.splitChars_of_lacks (m := ',') (by decide) hcomma]
  simp only [List.map_cons, List.map_nil, String.ofList_toList, Text.trim_of_tight htight]
  rw [List.filter_cons_of_pos (by simpa using hne), List.filter_nil]

/-- **A term asks for its tag.** -/
theorem satisfies_term {key : String} (hkey : IsTagKey key) {term : String} (ht : IsTerm term) :
    s.satisfies key term = s.hasTag key term := by
  have hfront : Text.dropFront? term "!" = none := by
    unfold Text.dropFront? Text.startsWith
    rw [if_neg]
    intro hbegins
    obtain ⟨rest, hrest⟩ := List.isPrefixOf_iff_prefix.mp hbegins
    exact ht.positive (hrest ▸ rfl)
  rw [satisfies_tag s hkey, filterTerms_single ht.nonempty ht.single ht.tight]
  unfold satisfiesTerm
  simp only [List.all_cons, List.all_nil, Bool.and_true, hfront]

/-- **A negated term forbids it.** -/
theorem satisfies_negated {key : String} (hkey : IsTagKey key) {term : String} (ht : IsTerm term) :
    s.satisfies key ("!" ++ term) = !s.hasTag key term := by
  have htext : ("!" ++ term).toList = '!' :: term.toList := by simp
  have hne : "!" ++ term ≠ "" := by
    intro h
    rw [h] at htext
    cases htext
  have hsingle : ',' ∉ ("!" ++ term).toList := by
    rw [htext]
    simp [ht.single]
  have htight : Tight ("!" ++ term).toList := by
    rw [htext]
    exact ht.tight.cons (by decide)
  have hfront : Text.dropFront? ("!" ++ term) "!" = some term := by
    have hbegins : "!".toList.isPrefixOf ('!' :: term.toList) = true :=
      List.isPrefixOf_iff_prefix.mpr ⟨term.toList, rfl⟩
    unfold Text.dropFront? Text.startsWith
    rw [htext, if_pos hbegins]
    exact congrArg some String.ofList_toList
  rw [satisfies_tag s hkey, filterTerms_single hne hsingle htight]
  unfold satisfiesTerm
  simp only [List.all_cons, List.all_nil, Bool.and_true, hfront, Text.trim_of_tight ht.tight]

/-! ## §3. Tags. -/

theorem hasTag_iff (key value : String) : s.hasTag key value = true ↔ (key, value) ∈ s.tagPairs := by
  unfold hasTag
  rw [List.any_eq_true]
  constructor
  · rintro ⟨⟨k, v⟩, hmem, h⟩
    obtain ⟨hk, hv⟩ := Bool.and_eq_true_iff.mp h
    obtain rfl : k = key := eq_of_beq hk
    obtain rfl : v = value := eq_of_beq hv
    exact hmem
  · intro hmem
    exact ⟨(key, value), hmem, by simp⟩

variable {s}

/-- **Of the tags only the set of keys and values counts,** and of a suite only these, the name of
the application and the kind. -/
theorem passes_congr {s' : Suite} (happlication : s'.application = s.application)
    (hkind : s'.kind = s.kind) (htags : ∀ p, p ∈ s'.tagPairs ↔ p ∈ s.tagPairs)
    (f : SuiteFilters) : s'.passes f = s.passes f := by
  have htag : ∀ key value, s'.hasTag key value = s.hasTag key value := fun key value => by
    rw [Bool.eq_iff_iff, hasTag_iff, hasTag_iff, htags]
  have hterm : ∀ key, s'.satisfiesTerm key = s.satisfiesTerm key := fun key => by
    funext term
    unfold satisfiesTerm
    simp only [htag]
  unfold passes satisfies
  simp only [happlication, hkind, hterm]

/-! ## §4. The laws. -/

/-- **THE ALGEBRA OF FILTERS.**  For every suite:

  1. it passes filters exactly if it passes each of them alone, so more filters never let a suite
     in;
  2. a tag filter with two values between which there is a comma is the two filters together;
  3. of a term and its negation the suite passes exactly one;
  4. a suite with the same application and kind whose tags have the same keys and values, however
     they are grouped, ordered or repeated, passes the same filters. -/
theorem filter_algebra (s : Suite) :
    (∀ f : SuiteFilters,
      (s.passes f = true ↔ ∀ e ∈ f.entries, s.passes (singleFilter e.1 e.2) = true) ∧
      ∀ g : SuiteFilters, (∀ e ∈ f.entries, e ∈ g.entries) →
        s.passes g = true → s.passes f = true) ∧
    (∀ key, IsTagKey key →
      (∀ v w : String, s.passes (singleFilter key (v ++ "," ++ w)) = true ↔
        s.passes (singleFilter key v) = true ∧ s.passes (singleFilter key w) = true) ∧
      ∀ term, IsTerm term → (s.passes (singleFilter key term) = true ↔
        ¬s.passes (singleFilter key ("!" ++ term)) = true)) ∧
    ∀ s' : Suite, s'.application = s.application → s'.kind = s.kind →
      (∀ p, p ∈ s'.tagPairs ↔ p ∈ s.tagPairs) → ∀ f, s'.passes f = s.passes f := by
  refine ⟨fun f => ⟨?_, fun g hsub hg => ?_⟩, fun key hkey => ⟨fun v w => ?_, fun term ht => ?_⟩,
    fun s' happlication hkind htags => passes_congr happlication hkind htags⟩
  · simp only [passes_single, passes_iff]
  · rw [passes_iff] at hg ⊢
    exact fun e he => hg e (hsub e he)
  · rw [passes_single, passes_single, passes_single, satisfies_comma s hkey, Bool.and_eq_true]
  · rw [passes_single, passes_single, satisfies_term s hkey ht, satisfies_negated s hkey ht]
    simp

/-- A suite with two tags. -/
def smokeSuite : Suite :=
  { tags := [singleFilter "suiteType" "@smoke", singleFilter "team" "payments"] }

/-- The same tags in the other order, in one group, and one of them a second time. -/
def smokeSuiteRegrouped : Suite :=
  { tags := [(singleFilter "team" "payments").insert "suiteType" "@smoke",
      singleFilter "suiteType" "@smoke"] }

/-- The tests of all teams but one. -/
def notSearch : SuiteFilters := (singleFilter "suiteType" "@smoke").insert "team" "!search"

theorem filter_algebra_smoke :
    smokeSuite.passes notSearch = true ∧
    smokeSuite.passes (singleFilter "suiteType" "@smoke") = true ∧
    smokeSuiteRegrouped.passes notSearch = true ∧
    IsTagKey "team" ∧ IsTerm "search" ∧
    ¬smokeSuite.passes (singleFilter "team" "search") = true ∧
    smokeSuite.passes (singleFilter "team" ("payments" ++ "," ++ "!search")) = true := by
  have hkey : IsTagKey "team" := ⟨by decide, by decide⟩
  have hterm : IsTerm "search" := ⟨by decide, by decide, Text.tight_iff.mp (by decide), by decide⟩
  have hpasses : smokeSuite.passes notSearch = true := by decide
  have hmore : ∀ e ∈ (singleFilter "suiteType" "@smoke").entries, e ∈ notSearch.entries := by
    decide
  have htags : ∀ p, p ∈ smokeSuiteRegrouped.tagPairs ↔ p ∈ smokeSuite.tagPairs := by
    intro p
    have hpairs : smokeSuite.tagPairs = [("suiteType", "@smoke"), ("team", "payments")] := by
      decide
    have hregrouped : smokeSuiteRegrouped.tagPairs
        = [("suiteType", "@smoke"), ("team", "payments"), ("suiteType", "@smoke")] := by
      decide
    rw [hpairs, hregrouped]
    simp only [List.mem_cons, List.not_mem_nil, or_false]
    tauto
  obtain ⟨hconjunction, hterms, hregroup⟩ := filter_algebra smokeSuite
  obtain ⟨hcomma, hnegated⟩ := hterms "team" hkey
  have hnot : smokeSuite.passes (singleFilter "team" ("!" ++ "search")) = true := by decide
  refine ⟨hpasses, (hconjunction _).2 notSearch hmore hpasses, ?_, hkey, hterm, ?_, ?_⟩
  · rw [hregroup smokeSuiteRegrouped rfl rfl htags]
    exact hpasses
  · exact fun hsearch => (hnegated "search" hterm).mp hsearch hnot
  · exact (hcomma "payments" "!search").mpr ⟨by decide, hnot⟩

end Suite

/-! ## §5. One argument. -/

/-- **The key of an argument:** what stands before its first equals sign, trimmed. -/
def keyOfArgument (arg : String) : String :=
  Text.trim (String.ofList (arg.toList.takeWhile (· != '=')))

/-- The value of an argument: what stands after its first equals sign, trimmed. -/
def valueOfArgument (arg : String) : String :=
  Text.trim (String.ofList ((arg.toList.dropWhile (· != '=')).drop 1))

/-- **An argument that says something:** it has an equals sign, and a key before it. -/
def SaysFilter (arg : String) : Prop := '=' ∈ arg.toList ∧ keyOfArgument arg ≠ ""

instance (arg : String) : Decidable (SaysFilter arg) :=
  inferInstanceAs (Decidable (_ ∧ _))

/-- **What an argument says, and when it is refused.** -/
theorem filterArgument_eq (arg : String) :
    filterArgument arg = if SaysFilter arg then .ok (keyOfArgument arg, valueOfArgument arg)
      else .error ("invalid filter '" ++ arg ++ "', expected key=value") := by
  by_cases hmem : '=' ∈ arg.toList
  · -- the first equals sign parts key and value
    obtain ⟨key, value, htext, hkey⟩ := List.eq_append_cons_of_mem hmem
    have hbefore : ∀ c ∈ key, (c != '=') = true := fun c hc => by
      simpa using fun h : c = '=' => hkey (h ▸ hc)
    have hk : keyOfArgument arg = Text.trim (String.ofList key) := by
      unfold keyOfArgument
      rw [htext, List.takeWhile_append_of_pos hbefore, List.takeWhile_cons_of_neg (by simp),
        List.append_nil]
    have hv : valueOfArgument arg = Text.trim (String.ofList value) := by
      unfold valueOfArgument
      rw [htext, List.dropWhile_append_of_pos hbefore, List.dropWhile_cons_of_neg (by simp)]
      rfl
    have hsplit : Text.splitOnce? '=' arg = some (String.ofList key, String.ofList value) := by
      unfold Text.splitOnce?
      rw [htext, Text.splitOnceChars?_first hkey]
      rfl
    unfold filterArgument
    rw [hsplit]
    by_cases hempty : Text.trim (String.ofList key) = ""
    · have hnot : ¬SaysFilter arg := fun h => h.2 (hk.trans hempty)
      rw [if_neg hnot]
      simp only [hempty]
      rfl
    · have hclear : SaysFilter arg := ⟨hmem, fun h => hempty (hk.symm.trans h)⟩
      rw [if_pos hclear, hk, hv]
      simp only [String.isEmpty_iff, hempty, if_false]
  · have hnot : ¬SaysFilter arg := fun h => hmem h.1
    have hsplit : Text.splitOnce? '=' arg = none := by
      unfold Text.splitOnce?
      rw [Text.splitOnceChars?_eq_none hmem]
      rfl
    unfold filterArgument
    rw [hsplit, if_neg hnot]
    rfl

/-! ## §6. Lists of arguments. -/

/-- What an argument says. -/
def pairOfArgument (arg : String) : String × String := (keyOfArgument arg, valueOfArgument arg)

/-- Why an argument is refused. -/
def refusalOf (arg : String) : String := "invalid filter '" ++ arg ++ "', expected key=value"

/-- **Arguments are read up to the first that says nothing.** -/
theorem filterPairs_eq (args : List String) :
    filterPairs args = match args.find? fun a => ¬SaysFilter a with
      | none => .ok (args.map pairOfArgument)
      | some arg => .error (refusalOf arg) := by
  induction args with
  | nil => rfl
  | cons arg rest ih =>
    have hcons : filterPairs (arg :: rest)
        = filterArgument arg >>= fun p => filterPairs rest >>= fun ps => .ok (p :: ps) := rfl
    rw [hcons, filterArgument_eq]
    -- nothing is read after the first refusal
    by_cases hclear : SaysFilter arg
    · rw [if_pos hclear, List.find?_cons_of_neg (by simpa using hclear), ih]
      cases rest.find? fun a => ¬SaysFilter a <;> rfl
    · rw [if_neg hclear, List.find?_cons_of_pos (by simpa using hclear)]
      rfl

/-- **Arguments are filters if each says one;** of equal keys the last one counts. -/
theorem filtersOfArguments_eq_ok_iff {args : List String} {f : SuiteFilters} :
    filtersOfArguments args = .ok f ↔
      (∀ a ∈ args, SaysFilter a) ∧ f = TextMap.ofList (args.map pairOfArgument) := by
  unfold filtersOfArguments
  rw [filterPairs_eq]
  cases hfirst : args.find? fun a => ¬SaysFilter a with
  | none =>
    have hall : ∀ a ∈ args, SaysFilter a := by
      simpa using List.find?_eq_none.mp hfirst
    show Except.ok (TextMap.ofList (args.map pairOfArgument)) = .ok f ↔ _
    rw [Except.ok.injEq, eq_comm]
    exact ⟨fun h => ⟨hall, h⟩, And.right⟩
  | some arg =>
    constructor
    · rintro ⟨⟩
    · rintro ⟨hall, -⟩
      have hclear := hall arg (List.mem_of_find?_eq_some hfirst)
      exact absurd hclear (by simpa using List.find?_some hfirst)

/-- The first argument that says no filter is refused. -/
theorem filtersOfArguments_eq_error_iff {args : List String} {reason : String} :
    filtersOfArguments args = .error reason ↔ ∃ before arg after, args = before ++ arg :: after ∧
      (∀ a ∈ before, SaysFilter a) ∧ ¬SaysFilter arg ∧ reason = refusalOf arg := by
  -- the failure is that of the first argument that says no filter
  have hfails : filtersOfArguments args = .error reason ↔
      ∃ arg, (args.find? fun a => ¬SaysFilter a) = some arg ∧ reason = refusalOf arg := by
    unfold filtersOfArguments
    rw [filterPairs_eq]
    cases args.find? fun a => ¬SaysFilter a with
    | none =>
      constructor
      · rintro ⟨⟩
      · rintro ⟨arg, ⟨⟩, -⟩
    | some arg =>
      constructor
      · rintro ⟨⟩
        exact ⟨arg, rfl, rfl⟩
      · rintro ⟨_, ⟨⟩, rfl⟩
        rfl
  rw [hfails]
  simp only [List.find?_eq_some_iff_append, decide_not, Bool.not_eq_true', decide_eq_false_iff_not,
    Bool.not_not, decide_eq_true_eq]
  constructor
  · rintro ⟨arg, ⟨hclear, before, after, heq, hbefore⟩, hreason⟩
    exact ⟨before, arg, after, heq, hbefore, hclear, hreason⟩
  · rintro ⟨before, arg, after, heq, hbefore, hclear, hreason⟩
    exact ⟨arg, ⟨hclear, before, after, heq, hbefore⟩, hreason⟩

/-! ## §7. What counts. -/

/-- A suite passes what an argument says when it is alone. -/
def PassesAlone (s : Suite) (arg : String) : Prop :=
  ∃ f, filtersOfArguments [arg] = .ok f ∧ s.passes f = true

/-- No later argument has the same key. -/
def LastOfKey (args : List String) (arg : String) : Prop :=
  ∃ before after, args = before ++ arg :: after ∧
    ∀ a ∈ after, keyOfArgument a ≠ keyOfArgument arg

theorem LastOfKey.mem {args : List String} {arg : String} (h : LastOfKey args arg) :
    arg ∈ args := by
  obtain ⟨before, after, rfl, -⟩ := h
  exact List.mem_append_right _ List.mem_cons_self

/-- Where no key comes twice, every argument is the last of its key. -/
theorem lastOfKey_iff {args : List String} (hnodup : (args.map keyOfArgument).Nodup)
    (arg : String) : LastOfKey args arg ↔ arg ∈ args := by
  refine ⟨LastOfKey.mem, fun hmem => ?_⟩
  obtain ⟨before, after, rfl⟩ := List.append_of_mem hmem
  refine ⟨before, after, rfl, fun a ha heq => ?_⟩
  rw [List.map_append, List.map_cons] at hnodup
  have hkey := (List.nodup_cons.mp (List.nodup_append.mp hnodup).2.1).1
  exact hkey (heq ▸ List.mem_map_of_mem ha)

theorem passesAlone_iff {s : Suite} {arg : String} :
    PassesAlone s arg ↔
      SaysFilter arg ∧ s.satisfies (keyOfArgument arg) (valueOfArgument arg) = true := by
  have hsingle : TextMap.ofList ([arg].map pairOfArgument)
      = singleFilter (keyOfArgument arg) (valueOfArgument arg) := rfl
  unfold PassesAlone
  simp only [filtersOfArguments_eq_ok_iff, List.forall_mem_singleton, hsingle]
  constructor
  · rintro ⟨f, ⟨hclear, rfl⟩, hpasses⟩
    rw [Suite.passes_single] at hpasses
    exact ⟨hclear, hpasses⟩
  · rintro ⟨hclear, hsatisfies⟩
    refine ⟨_, ⟨hclear, rfl⟩, ?_⟩
    rw [Suite.passes_single]
    exact hsatisfies

/-- The members of the map are what the last argument of each key says. -/
theorem mem_arguments_iff {args : List String} {e : String × String} :
    e ∈ (TextMap.ofList (args.map pairOfArgument)).entries ↔
      ∃ arg, LastOfKey args arg ∧ e = pairOfArgument arg := by
  rw [TextMap.mem_ofList_iff]
  constructor
  · rintro ⟨before, after, heq, hafter⟩
    obtain ⟨front, back, rfl, -, hback⟩ := List.map_eq_append_iff.mp heq
    obtain ⟨arg, rest, rfl, rfl, rfl⟩ := List.map_eq_cons_iff.mp hback
    refine ⟨arg, ⟨front, rest, rfl, fun a ha => ?_⟩, rfl⟩
    exact hafter (pairOfArgument a) (List.mem_map_of_mem ha)
  · rintro ⟨arg, ⟨before, after, rfl, hafter⟩, rfl⟩
    refine ⟨before.map pairOfArgument, after.map pairOfArgument, by simp, ?_⟩
    intro p hp
    obtain ⟨a, ha, rfl⟩ := List.mem_map.mp hp
    exact hafter a ha

/-- **A suite passes exactly if it passes the last argument of each key.** -/
theorem passes_arguments_iff {args : List String} {f : SuiteFilters}
    (h : filtersOfArguments args = .ok f) (s : Suite) :
    s.passes f = true ↔ ∀ arg, LastOfKey args arg → PassesAlone s arg := by
  obtain ⟨hclear, rfl⟩ := filtersOfArguments_eq_ok_iff.mp h
  rw [Suite.passes_iff]
  simp only [mem_arguments_iff, passesAlone_iff]
  constructor
  · intro hall arg hlast
    exact ⟨hclear arg hlast.mem, hall (pairOfArgument arg) ⟨arg, hlast, rfl⟩⟩
  · rintro hall e ⟨arg, hlast, rfl⟩
    exact (hall arg hlast).2

/-- An argument is refused alone if it says nothing. -/
theorem refusedAlone_iff {arg reason : String} :
    filtersOfArguments [arg] = .error reason ↔ ¬SaysFilter arg ∧ reason = refusalOf arg := by
  rw [filtersOfArguments_eq_error_iff]
  constructor
  · rintro ⟨before, a, after, heq, -, hclear, rfl⟩
    obtain ⟨rfl, heq⟩ | ⟨_, rfl, heq⟩ := List.append_eq_cons_iff.mp heq.symm
    · cases heq
      exact ⟨hclear, rfl⟩
    · simp at heq
  · rintro ⟨hclear, rfl⟩
    exact ⟨[], arg, [], rfl, by simp, hclear, rfl⟩

/-- **WHICH ARGUMENTS COUNT.**  For every list of arguments:

  1. if it is accepted, a suite passes exactly if it passes the last argument of each key alone;
     so a suite that passes each argument alone passes, and where no key comes twice, no other
     suite does;
  2. it is refused exactly if some argument alone is refused, and the reason is that of the first
     such argument and names it. -/
theorem last_of_key_counts (args : List String) :
    (∀ f, filtersOfArguments args = .ok f → ∀ s : Suite,
      (s.passes f = true ↔ ∀ arg, LastOfKey args arg → PassesAlone s arg) ∧
      ((∀ arg ∈ args, PassesAlone s arg) → s.passes f = true) ∧
      ((args.map keyOfArgument).Nodup →
        (s.passes f = true ↔ ∀ arg ∈ args, PassesAlone s arg))) ∧
    ((∃ reason, filtersOfArguments args = .error reason) ↔
      ∃ arg ∈ args, ∃ reason, filtersOfArguments [arg] = .error reason) ∧
    ∀ reason, filtersOfArguments args = .error reason → ∃ before arg after,
      args = before ++ arg :: after ∧ (∀ a ∈ before, ∃ f, filtersOfArguments [a] = .ok f) ∧
      filtersOfArguments [arg] = .error reason ∧
      reason = "invalid filter '" ++ arg ++ "', expected key=value" := by
  refine ⟨fun f hf s => ⟨passes_arguments_iff hf s, fun hall => ?_, fun hnodup => ?_⟩, ?_, ?_⟩
  · exact (passes_arguments_iff hf s).mpr fun arg hlast => hall arg hlast.mem
  · -- without equal keys every argument is the last of its own
    rw [passes_arguments_iff hf s]
    simp only [lastOfKey_iff hnodup]
  · constructor
    · rintro ⟨reason, h⟩
      obtain ⟨before, arg, after, rfl, -, hrefused⟩ := filtersOfArguments_eq_error_iff.mp h
      exact ⟨arg, by simp, reason, refusedAlone_iff.mpr hrefused⟩
    · rintro ⟨arg, hmem, reason, h⟩
      cases hargs : filtersOfArguments args with
      | error r => exact ⟨r, rfl⟩
      | ok f =>
        have hclear := (filtersOfArguments_eq_ok_iff.mp hargs).1 arg hmem
        exact absurd hclear (refusedAlone_iff.mp h).1
  · intro reason h
    obtain ⟨before, arg, after, heq, hbefore, hclear, hreason⟩ :=
      filtersOfArguments_eq_error_iff.mp h
    refine ⟨before, arg, after, heq, fun a ha => ?_, refusedAlone_iff.mpr ⟨hclear, hreason⟩, hreason⟩
    exact ⟨_, filtersOfArguments_eq_ok_iff.mpr ⟨by simpa using hbefore a ha, rfl⟩⟩

/-- A suite that is slow and no smoke test. -/
def slowSuite : Suite := { tags := [singleFilter "suiteType" "@slow"] }

/-- **The first of two arguments with one key is forgotten:** who asks for smoke tests and for slow
ones gets a suite that is no smoke test. -/
theorem first_of_key_forgotten :
    ∃ f, filtersOfArguments ["suiteType=@smoke", "suiteType=@slow"] = .ok f ∧
      slowSuite.passes f = true ∧ ¬PassesAlone slowSuite "suiteType=@smoke" := by
  refine ⟨singleFilter "suiteType" "@slow", by decide, by decide, ?_⟩
  rintro ⟨f, hf, hpasses⟩
  have halone : filtersOfArguments ["suiteType=@smoke"]
      = .ok (singleFilter "suiteType" "@smoke") := by decide
  cases halone.symm.trans hf
  exact absurd hpasses (by decide)

end SuiteRunner

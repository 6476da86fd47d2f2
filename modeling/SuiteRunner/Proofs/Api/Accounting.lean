import Mathlib.Data.List.Forall2
import SuiteRunner.Proofs.Api.Stages
import SuiteRunner.Proofs.Assertion.Verdicts
import SuiteRunner.Proofs.Run.Parts

/-!
  SuiteRunner.Proofs.Api.Accounting
  ────────────────────────────────
  **WHAT THE ENTRY OF AN ITEM COUNTS.**

  The verdicts on a response come from four places: its schema, the assertions on a JSON body, the
  assertions on an XML body, and the values that are to be stored.  Each is counted once:

    • `total_judge` — what the schema and the assertions count,
    • `total_storeAll` — a value that is not there counts one, and a value that is there nothing.

  `ItemAccount` is what there is to say about the entry of one item, which either got no response
  (`Unanswered`) or is judged by it (`Answered`).  `runItem_account` proves it for one item,
  `runItems_accounts` carries it through a case, and `runSuite_accounts` is the statement for suites
  under every behaviour of the outside.
-/

namespace SuiteRunner

namespace Api

/-! ## §1. What a response counts. -/

theorem total_schemaOutcome (x : Exchange) :
    (schemaOutcome x).total = if x.schema.isSome then 1 else 0 := by
  unfold schemaOutcome
  cases x.schema with
  | none => rfl
  | some schema =>
    show (Outcome.ofVerdicts [Schema.verdict schema x.document?]).total = _
    rw [Outcome.total_ofVerdicts]
    rfl

/-- **What the schema and the assertions count:** one for each assertion, one for a schema that
is not for SOAP, and one for a SOAP response that is no document. -/
theorem total_judge (o : Owner) (item : DataItem) (x : Exchange) (s : Store) :
    (judge o item x s).1.total = item.assertions.length
      + (if x.soap = false ∧ x.schema.isSome then 1 else 0)
      + (if x.soap = true ∧ Xml.Document.ofText? x.text = none then 1 else 0) := by
  unfold judge
  -- what a request is decides who judges: no item has a schema and an XML body
  cases hsoap : x.soap with
  | true =>
    show (Assertion.evaluateOnXml o x.text x.response.status item.assertions s).1.total = _
    rw [Assertion.total_evaluateOnXml]
    simp only [Bool.true_eq_false, false_and, if_false, true_and, Nat.add_zero]
  | false =>
    show ((schemaOutcome x).merge
      (Assertion.evaluateOnJson o x.document? x.response.status item.assertions s).1).total = _
    rw [Outcome.total_merge, Assertion.total_evaluateOnJson, total_schemaOutcome, Nat.add_comm]
    simp only [Bool.false_eq_true, false_and, if_false, true_and, Nat.add_zero]

/-- The value that a path selects in a response: none if it is no document, if the path is none, or
if it selects nothing. -/
def selected? (document : Option Json) (path : String) : Option Json :=
  match document with
  | none => none
  | some v =>
    match JsonPath.select v path with
    | .ok found => found
    | .error _ => none

/-- A value that is selected is stored. -/
theorem stored_of_selected {path : String} {document : Option Json} {v : Json} (name : String)
    (h : selected? document path = some v) : stored name path document = .ok v := by
  cases document with
  | none => cases h
  | some body =>
    unfold selected? at h
    unfold stored
    cases hselect : JsonPath.select body path with
    | error e =>
      simp only [hselect] at h
      cases h
    | ok found =>
      simp only [hselect] at h
      simp only [hselect, h]

/-- What is not selected is an error. -/
theorem stored_of_not_selected {path : String} {document : Option Json} (name : String)
    (h : selected? document path = none) : ∃ e, stored name path document = .error e := by
  cases document with
  | none => exact ⟨_, rfl⟩
  | some body =>
    unfold selected? at h
    unfold stored
    cases hselect : JsonPath.select body path with
    | error e =>
      simp only [hselect]
      exact ⟨_, rfl⟩
    | ok found =>
      simp only [hselect] at h
      simp only [hselect, h]
      exact ⟨_, rfl⟩

/-- **How many store directives cannot be satisfied:** those whose path selects nothing, where each
path is filled in the store that the directives before it left. -/
def unsatisfied (o : Owner) (document : Option Json) : List (String × String) → Store → Nat
  | [], _ => 0
  | (name, path) :: rest, s =>
    match selected? document (s.inject o path).1 with
    | some v => unsatisfied o document rest ((s.inject o path).2.setGlobal name (valueText v))
    | none => unsatisfied o document rest (s.inject o path).2 + 1

/-- No more of them can fail than there are. -/
theorem unsatisfied_le (o : Owner) (document : Option Json) (directives : List (String × String))
    (s : Store) : unsatisfied o document directives s ≤ directives.length := by
  induction directives generalizing s with
  | nil => exact Nat.le_refl 0
  | cons directive rest ih =>
    obtain ⟨name, path⟩ := directive
    unfold unsatisfied
    cases selected? document (s.inject o path).1 with
    | some v => exact Nat.le_succ_of_le (ih _)
    | none => exact Nat.succ_le_succ (ih _)

/-- **What storing counts:** nothing for a value that is there, and one for a value that is not. -/
theorem total_storeAll (o : Owner) (document : Option Json) (directives : List (String × String))
    (outcome : Outcome) (s : Store) :
    (storeAll o document directives outcome s).1.total
      = outcome.total + unsatisfied o document directives s := by
  -- for every outcome and store: each directive leaves both to the ones after it
  induction directives generalizing outcome s with
  | nil => rfl
  | cons directive rest ih =>
    obtain ⟨name, path⟩ := directive
    unfold storeAll unsatisfied storeOne
    cases hselected : selected? document (s.inject o path).1 with
    | some v =>
      simp only [stored_of_selected name hselected]
      exact ih _ _
    | none =>
      obtain ⟨e, he⟩ := stored_of_not_selected name hselected
      simp only [he]
      rw [ih, Outcome.total_fail]
      omega

/-- **Everything that a response counts.** -/
theorem total_conclude (o : Owner) (item : DataItem) (x : Exchange) (s : Store) :
    (conclude o item x s).1.total = item.assertions.length
      + (if x.soap = false ∧ x.schema.isSome then 1 else 0)
      + (if x.soap = true ∧ Xml.Document.ofText? x.text = none then 1 else 0)
      + unsatisfied o x.document? item.store.entries (judge o item x s).2 := by
  show (storeAll o x.document? item.store.entries (judge o item x s).1 (judge o item x s).2).1.total
    = _
  rw [total_storeAll, total_judge]

/-! ## §2. The status of an entry that is judged. -/

/-- **An entry passes exactly if no assertion failed.** -/
theorem judged_pass_iff (e : Entry) (x : Exchange) (outcome : Outcome) :
    (judged e x outcome).status = .pass ↔ outcome.failed = 0 := by
  show (if outcome.failed = 0 then Status.pass else .fail) = .pass ↔ _
  by_cases hfailed : outcome.failed = 0
  · simp only [hfailed, if_true]
  · simp only [hfailed, if_false, iff_false]
    intro hpass
    cases hpass

theorem judged_pass_or_fail (e : Entry) (x : Exchange) (outcome : Outcome) :
    (judged e x outcome).status = .pass ∨ (judged e x outcome).status = .fail := by
  by_cases hfailed : outcome.failed = 0
  · exact .inl ((judged_pass_iff e x outcome).mpr hfailed)
  · right
    show (if outcome.failed = 0 then Status.pass else .fail) = .fail
    rw [if_neg hfailed]

/-- An entry has an error exactly if an assertion failed. -/
theorem judged_error_iff (e : Entry) (x : Exchange) (outcome : Outcome) :
    (judged e x outcome).error = none ↔ outcome.failed = 0 := by
  show (if outcome.failed = 0 then none else some _) = none ↔ _
  by_cases hfailed : outcome.failed = 0
  · simp only [hfailed, if_true]
  · simp only [hfailed, if_false, iff_false]
    intro hnone
    cases hnone

/-! ## §3. The account of an item. -/

/-- The entry of an item without a response: `f` is why there is none, and `log` what the exchange
asked. -/
structure Unanswered (setup : ApiSetup) (suite : Suite) (c : TestCase) (item : DataItem)
    (p : Part Store) (log : Log) (f : Failure) : Prop where
  ends : Ends setup suite c ⟨suite.id, c.id⟩ item p.before log (.error f) p.after
  /-- It leaves the same variables whatever is to be stored. -/
  unapplied : ∀ directives, Ends setup suite c ⟨suite.id, c.id⟩
    { item with store := directives } p.before log (.error f) p.after
  status : p.entry.status = .fail
  error : p.entry.error = some f.message
  response : p.entry.response = none
  passed : p.entry.assertionsPassed = 0
  failed : p.entry.assertionsFailed = 0

/-- The entry of an item with a response: `x` is the exchange, and `m` the store that it left. -/
structure Answered (setup : ApiSetup) (suite : Suite) (c : TestCase) (item : DataItem)
    (p : Part Store) (log : Log) (x : Exchange) (m : Store) : Prop where
  ends : Ends setup suite c ⟨suite.id, c.id⟩ item p.before log (.ok x) m
  response : p.entry.response = some x.snapshot
  /-- The counts are those of the verdicts, and the variables those of the values stored. -/
  passed : p.entry.assertionsPassed = (conclude ⟨suite.id, c.id⟩ item x m).1.passed
  failed : p.entry.assertionsFailed = (conclude ⟨suite.id, c.id⟩ item x m).1.failed
  after : p.after = (conclude ⟨suite.id, c.id⟩ item x m).2
  /-- Nothing is counted twice, and nothing is lost. -/
  total : p.entry.assertionsPassed + p.entry.assertionsFailed = item.assertions.length
    + (if x.soap = false ∧ hasSchema item then 1 else 0)
    + (if x.soap = true ∧ Xml.Document.ofText? x.text = none then 1 else 0)
    + unsatisfied ⟨suite.id, c.id⟩ x.document? item.store.entries
        (judge ⟨suite.id, c.id⟩ item x m).2

/-- **The account of one item:** `p` is its part of the run. -/
structure ItemAccount (setup : ApiSetup) (suite : Suite) (c : TestCase) (index : Nat)
    (item : DataItem) (p : Part Store) : Prop where
  /-- The entry names the item and its place. -/
  unit : p.entry.SameUnit (newEntry suite c index item)
  verdict : ∃ (started finished : Int) (log : Log),
    p.log = ⟨.clock, started⟩ :: (log ++ [⟨.clock, finished⟩]) ∧
      ((∃ f, Unanswered setup suite c item p log f) ∨
        ∃ x m, Answered setup suite c item p log x m)
  pass_or_fail : p.entry.status = .pass ∨ p.entry.status = .fail
  /-- It passes exactly if there is a response and nothing failed. -/
  pass_iff : p.entry.status = .pass ↔
    p.entry.response.isSome ∧ p.entry.assertionsFailed = 0
  error_iff : p.entry.error = none ↔ p.entry.status = .pass

/-- **The counts of an item have 32 bits** as long as its assertions and the values to be stored
are few enough; besides those there are at most two verdicts. -/
theorem ItemAccount.counts_fit {setup : ApiSetup} {suite : Suite} {c : TestCase} {index : Nat}
    {item : DataItem} {p : Part Store} (h : ItemAccount setup suite c index item p)
    (hfew : item.assertions.length + item.store.entries.length + 2 < countBound) :
    p.entry.assertionsPassed < countBound ∧ p.entry.assertionsFailed < countBound := by
  obtain ⟨started, finished, log, -, ⟨f, hnone⟩ | ⟨x, m, hjudged⟩⟩ := h.verdict
  · rw [hnone.passed, hnone.failed]
    exact ⟨by decide, by decide⟩
  · have htotal := hjudged.total
    have hstored := unsatisfied_le ⟨suite.id, c.id⟩ x.document? item.store.entries
      (judge ⟨suite.id, c.id⟩ item x m).2
    split at htotal <;> split at htotal <;> omega

/-- The account of an item whose exchange failed. -/
theorem account_of_failed {setup : ApiSetup} {suite : Suite} {c : TestCase} {item : DataItem}
    {s s' : Store} {log : Log} {f : Failure} (index duration : Nat) (started finished : Int)
    (h : (exchange setup suite c ⟨suite.id, c.id⟩ item).Runs s log (.error f) s') :
    ItemAccount setup suite c index item
      ⟨{ failed (newEntry suite c index item) f with duration := duration },
        ⟨.clock, started⟩ :: (log ++ [⟨.clock, finished⟩]), s, s'⟩ where
  unit := ⟨rfl, rfl, rfl, rfl, rfl, rfl, rfl⟩
  verdict := ⟨started, finished, log, rfl, .inl ⟨f,
    { ends := exchange_ends h
      -- the exchange does not read what is to be stored, so this is the same run
      unapplied := fun directives =>
        show Ends setup suite c _ { item with store := directives } s log (.error f) s' from
          exchange_ends h
      status := rfl
      error := rfl
      response := rfl
      passed := rfl
      failed := rfl }⟩⟩
  pass_or_fail := .inr rfl
  pass_iff := by
    show Status.fail = .pass ↔ (none : Option Snapshot).isSome ∧ _
    simp only [Option.isSome_none, Bool.false_eq_true, false_and, reduceCtorEq]
  error_iff := by
    show some f.message = none ↔ Status.fail = .pass
    simp only [reduceCtorEq]

/-- The account of an item that got a response. -/
theorem account_of_judged {setup : ApiSetup} {suite : Suite} {c : TestCase} {item : DataItem}
    {s m : Store} {log : Log} {x : Exchange} (index duration : Nat) (started finished : Int)
    (h : (exchange setup suite c ⟨suite.id, c.id⟩ item).Runs s log (.ok x) m) :
    ItemAccount setup suite c index item
      ⟨{ judged (newEntry suite c index item) x (conclude ⟨suite.id, c.id⟩ item x m).1 with
          duration := duration },
        ⟨.clock, started⟩ :: (log ++ [⟨.clock, finished⟩]), s,
        (conclude ⟨suite.id, c.id⟩ item x m).2⟩ where
  unit := ⟨rfl, rfl, rfl, rfl, rfl, rfl, rfl⟩
  verdict := ⟨started, finished, log, rfl, .inr ⟨x, m,
    { ends := exchange_ends h
      response := rfl
      passed := rfl
      failed := rfl
      after := rfl
      total := by
        -- the exchange has a schema exactly if one is stated and it is none of SOAP
        have htotal := total_conclude ⟨suite.id, c.id⟩ item x m
        rw [(exchange_ends h).schema_isSome] at htotal
        simp only [Bool.and_eq_true, Bool.not_eq_true', and_self_left] at htotal
        exact htotal }⟩⟩
  pass_or_fail := judged_pass_or_fail (newEntry suite c index item) x _
  pass_iff :=
    (judged_pass_iff (newEntry suite c index item) x _).trans
      ⟨fun hnone => ⟨rfl, hnone⟩, fun h => h.2⟩
  error_iff :=
    (judged_error_iff (newEntry suite c index item) x _).trans
      (judged_pass_iff (newEntry suite c index item) x _).symm

/-- **An item always leaves an entry,** and the account of it holds. -/
theorem runItem_account {setup : ApiSetup} {suite : Suite} {c : TestCase} {index : Nat}
    {item : DataItem} {s s' : Store} {log : Log} {r : Except Failure Entry}
    (h : (runItem setup suite c index item).Runs s log r s') :
    ∃ e, r = .ok e ∧ ItemAccount setup suite c index item ⟨e, log, s, s'⟩ := by
  obtain ⟨started, finished, middle, q, m, duration, rfl, hexchange, rfl, rfl⟩ := runs_runItem h
  cases q with
  | ok x => exact ⟨_, rfl, account_of_judged index duration started finished hexchange⟩
  | error f => exact ⟨_, rfl, account_of_failed index duration started finished hexchange⟩

/-! ## §4. The items of a suite. -/

theorem neverFails_runItem (setup : ApiSetup) (suite : Suite) (c : TestCase) (index : Nat)
    (item : DataItem) : Task.NeverFails (runItem setup suite c index item) := by
  intro s log r s' h
  obtain ⟨e, hr, -⟩ := runItem_account h
  exact ⟨e, hr⟩

/-- **The items one after another:** every run of them has a part for each item, with its account. -/
theorem runItems_accounts {setup : ApiSetup} {suite : Suite} {c : TestCase}
    (items : List DataItem) :
    ∀ (index : Nat) {s s' : Store} {log : Log} {r : Except Failure (List Entry)},
      (runItems setup suite c index items).Runs s log r s' →
      ∃ parts, Part.Cuts parts s log r s' ∧
        List.Forall₂ (fun u p => ItemAccount setup suite c u.2 u.1 p) (items.zipIdx index) parts := by
  -- on the items, for every position of the first: no item fails, so the rest always runs
  induction items with
  | nil =>
    intro index s s' log r h
    exact ⟨[], Part.cuts_of_runs_nil h, .nil⟩
  | cons item rest ih =>
    intro index s s' log r h
    have hrest : Task.NeverFails (runItems setup suite c (index + 1) rest) := by
      intro s log r s' hruns
      obtain ⟨parts, hcuts, -⟩ := ih (index + 1) hruns
      exact ⟨_, hcuts.result_eq⟩
    obtain ⟨log₁, log₂, e, m, es, rfl, rfl, hitem, hmore⟩ :=
      (Task.runs_both_iff (neverFails_runItem setup suite c index item) fun _ => hrest).mp h
    obtain ⟨_, he, haccount⟩ := runItem_account hitem
    cases he
    obtain ⟨parts, hcuts, haccounts⟩ := ih (index + 1) hmore
    exact ⟨⟨e, log₁, s, m⟩ :: parts, hcuts.cons e, .cons haccount haccounts⟩

/-- The items of cases with their positions, in order. -/
def units (cases : List TestCase) : List (TestCase × DataItem × Nat) :=
  cases.flatMap fun c => c.data.zipIdx.map fun u => (c, u)

/-- **The cases one after another.** -/
theorem runCases_accounts {setup : ApiSetup} {suite : Suite} (cases : List TestCase) :
    ∀ {s s' : Store} {log : Log} {r : Except Failure (List Entry)},
      (runCases setup suite cases).Runs s log r s' →
      ∃ parts, Part.Cuts parts s log r s' ∧
        List.Forall₂ (fun u p => ItemAccount setup suite u.1 u.2.2 u.2.1 p) (units cases) parts := by
  induction cases with
  | nil =>
    intro s s' log r h
    exact ⟨[], Part.cuts_of_runs_nil h, .nil⟩
  | cons c rest ih =>
    intro s s' log r h
    have hcase : Task.NeverFails (runCase setup suite c) := by
      intro s log r s' hruns
      obtain ⟨parts, hcuts, -⟩ := runItems_accounts c.data 0 hruns
      exact ⟨_, hcuts.result_eq⟩
    have hrest : Task.NeverFails (runCases setup suite rest) := by
      intro s log r s' hruns
      obtain ⟨parts, hcuts, -⟩ := ih hruns
      exact ⟨_, hcuts.result_eq⟩
    -- a case never fails as a whole, so its parts stand before those of the rest
    obtain ⟨log₁, log₂, es, m, more, rfl, rfl, hitems, hmore⟩ :=
      (Task.runs_both_iff hcase fun _ => hrest).mp h
    obtain ⟨ps, hps, hitemAccounts⟩ := runItems_accounts c.data 0 hitems
    obtain ⟨qs, hqs, hcaseAccounts⟩ := ih hmore
    refine ⟨ps ++ qs, hps.append hqs, ?_⟩
    show List.Forall₂ _ (c.data.zipIdx.map (fun u => (c, u)) ++ units rest) (ps ++ qs)
    exact List.rel_append (List.forall₂_map_left_iff.mpr hitemAccounts) hcaseAccounts

/-- **WHAT THE ENTRIES OF A SUITE COUNT.**  Whatever the servers, the databases, the files, the
clock and chance do, a suite leaves one entry for each of its items, in the order of the cases and
of the items in them, and the account of every item holds. -/
theorem runSuite_accounts (setup : ApiSetup) (suite : Suite) (b : Behaviour outside) (s : Store)
    (past : Log) :
    ∃ (parts : List (Part Store)) (s' : Store),
      Task.play b (runSuite setup suite) s past
        = ((.ok (Part.entries parts), s'), past ++ Part.logs parts) ∧
      Part.Follow s parts s' ∧
      List.Forall₂ (fun u p => ItemAccount setup suite u.1 u.2.2 u.2.1 p) (units suite.cases)
        parts := by
  obtain ⟨log, r, s', hplay, hruns⟩ := Task.exists_play b (runSuite setup suite) s past
  obtain ⟨parts, ⟨rfl, rfl, hfollow⟩, haccounts⟩ := runCases_accounts suite.cases hruns
  exact ⟨parts, s', hplay, hfollow, haccounts⟩

end Api

end SuiteRunner

import Mathlib.Data.List.Forall2
import Mathlib.Data.List.Perm.Basic
import Mathlib.Data.String.Basic
import SuiteRunner.Proofs.Outside.Transcript
import SuiteRunner.Proofs.Outside.Results
import SuiteRunner.Proofs.Run.Pool
import SuiteRunner.Run.Execution

/-!
  SuiteRunner.Proofs.Run.Totals
  ────────────────────────────────
  **THE TOTALS OF A RUN OF ALL SUITES.**

  Of every suite file comes one of three results: its suite ran and left entries, the filters left
  it out, or something failed.  The outcome of a run is a fold over these results in the order in
  which the suites ended:

    • `foldl_add` — what the fold makes of them, in closed form,
    • `outcome_perm` — the order is seen in nothing but the names of those left out,
    • `accounts_of_perm` — the books balance,
    • `endings_each` — suite files are taken up one after another, whatever came of those before,
    • `runAll_results` — a run of all suites has one result for each file.

  `runAll_adds_up` is the statement for all orders in which suites that run a few at a time may end.
-/

namespace SuiteRunner

/-! ## §1. The results of suite files. -/

/-- What comes of a suite file. -/
inductive FileResult where
  /-- The suite ran; there is a report on its entries. -/
  | completed (name : String) (tags : List TextMap) (entries : List Entry) (duration : Nat)
      (report : String)
  /-- The filters left the suite out. -/
  | filtered (name : String)
  /-- The suite could not be loaded, run or reported on. -/
  | broken (failure : Failure)

namespace FileResult

/-- What a run gets to know of a result. -/
def ending : FileResult → SuiteEnding
  | .completed name tags entries duration report =>
    .completed (Report.of name tags entries duration).summary report
  | .filtered name => .filtered name
  | .broken failure => .broken failure

/-- The entries that a suite left. -/
def entries : FileResult → List Entry
  | .completed _ _ entries _ _ => entries
  | .filtered _ => []
  | .broken _ => []

/-- The report on a suite. -/
def report? : FileResult → Option String
  | .completed _ _ _ _ report => some report
  | .filtered _ => none
  | .broken _ => none

/-- The report on a suite, as it was written, with its path. -/
def filed? : FileResult → Option (Report × String)
  | .completed name tags entries duration report =>
    some (.of name tags entries duration, report)
  | .filtered _ => none
  | .broken _ => none

/-- The name of a suite that was left out. -/
def leftOut? : FileResult → Option String
  | .completed _ _ _ _ _ => none
  | .filtered name => some name
  | .broken _ => none

/-- Whether a suite failed as a whole. -/
def isBroken : FileResult → Bool
  | .completed _ _ _ _ _ => false
  | .filtered _ => false
  | .broken _ => true

/-- All entries of a run. -/
def allEntries (results : List FileResult) : List Entry := results.flatMap entries

/-- How many suites failed as a whole. -/
def brokenCount (results : List FileResult) : Nat := results.countP isBroken

/-- **The outcome of a run** whose suites ended in an order. -/
def outcome (order : List FileResult) : RunOutcome := .ofEndings (order.map ending)

/-- Every suite file has a report, was left out, or failed. -/
theorem one_of_three (results : List FileResult) :
    (results.filterMap report?).length + (results.filterMap leftOut?).length + brokenCount results
      = results.length := by
  induction results with
  | nil => rfl
  | cons x rest ih =>
    unfold brokenCount at ih ⊢
    rw [List.countP_cons, List.filterMap_cons, List.filterMap_cons, List.length_cons]
    cases x with
    | completed name tags entries duration report =>
      show (_ + 1) + (rest.filterMap leftOut?).length + (_ + 0) = _
      omega
    | filtered name =>
      show (rest.filterMap report?).length + (_ + 1) + (_ + 0) = _
      omega
    | broken failure =>
      show (rest.filterMap report?).length + (rest.filterMap leftOut?).length + (_ + 1) = _
      omega

/-! ## §2. What the outcome is. -/

end FileResult

theorem countStatus_append (s : Status) (es fs : List Entry) :
    countStatus s (es ++ fs) = countStatus s es + countStatus s fs :=
  List.countP_append

/-- An entry passed, failed or was skipped. -/
theorem countStatus_sum (es : List Entry) :
    countStatus .pass es + countStatus .fail es + countStatus .skipped es = es.length := by
  unfold countStatus
  induction es with
  | nil => rfl
  | cons e rest ih =>
    rw [List.countP_cons, List.countP_cons, List.countP_cons, List.length_cons, ← ih]
    cases e.status with
    | pass =>
      show _ + 1 + (_ + 0) + (_ + 0) = _
      omega
    | fail =>
      show _ + 0 + (_ + 1) + (_ + 0) = _
      omega
    | skipped =>
      show _ + 0 + (_ + 0) + (_ + 1) = _
      omega

namespace FileResult

/-- **What folding results makes of an outcome:** counts go up by what the suites left, with one
unit and one failure for each broken suite; reports and names are appended. -/
theorem foldl_add (results : List FileResult) (o : RunOutcome) :
    (results.map ending).foldl RunOutcome.add o =
      { summary :=
          { total := o.summary.total + ((allEntries results).length + brokenCount results)
            passed := o.summary.passed + countStatus .pass (allEntries results)
            failed := o.summary.failed
              + (countStatus .fail (allEntries results) + brokenCount results)
            skipped := o.summary.skipped + countStatus .skipped (allEntries results)
            duration := o.summary.duration }
        reports := o.reports ++ results.filterMap report?
        skipped := o.skipped ++ results.filterMap leftOut? } := by
  -- for every outcome: the first result changes what the others are added to
  induction results generalizing o with
  | nil =>
    show o = { summary := _, reports := o.reports ++ [], skipped := o.skipped ++ [] }
    rw [List.append_nil, List.append_nil]
    rfl
  | cons x rest ih =>
    rw [List.map_cons, List.foldl_cons, ih]
    have hall : allEntries (x :: rest) = x.entries ++ allEntries rest := List.flatMap_cons
    have hbroken : brokenCount (x :: rest) = brokenCount rest + if x.isBroken then 1 else 0 :=
      List.countP_cons
    rw [hall, hbroken, List.length_append, countStatus_append, countStatus_append,
      countStatus_append, List.filterMap_cons, List.filterMap_cons]
    cases x with
    | completed name tags entries duration report =>
      simp only [RunOutcome.add, RunSummary.add, ending, FileResult.entries, report?, leftOut?,
        isBroken, Report.of, SuiteSummary.of, List.append_assoc, List.singleton_append,
        Bool.false_eq_true, if_false, Nat.add_assoc, Nat.add_zero]
    | filtered name =>
      simp only [RunOutcome.add, ending, FileResult.entries, report?, leftOut?, isBroken,
        countStatus, List.length_nil, List.countP_nil, List.append_assoc, List.singleton_append,
        Bool.false_eq_true, if_false, Nat.zero_add, Nat.add_zero]
    | broken failure =>
      simp only [RunOutcome.add, RunSummary.addFailedSuite, ending, FileResult.entries, report?,
        leftOut?, isBroken, countStatus, List.length_nil, List.countP_nil, if_true, Nat.zero_add,
        Nat.add_assoc, Nat.add_comm, Nat.add_left_comm]

/-- The totals of a run. -/
theorem outcome_summary (order : List FileResult) :
    (outcome order).summary =
      { total := (allEntries order).length + brokenCount order
        passed := countStatus .pass (allEntries order)
        failed := countStatus .fail (allEntries order) + brokenCount order
        skipped := countStatus .skipped (allEntries order) } := by
  show ((order.map ending).foldl RunOutcome.add {}).summary = _
  rw [foldl_add]
  simp only [Nat.zero_add]

/-- The names of the suites that were left out. -/
theorem outcome_skipped (order : List FileResult) :
    (outcome order).skipped = order.filterMap leftOut? := by
  show ((order.map ending).foldl RunOutcome.add {}).skipped = _
  rw [foldl_add]
  exact List.nil_append _

/-- The reports, sorted. -/
theorem outcome_reports (order : List FileResult) :
    (outcome order).reports = (order.filterMap report?).mergeSort fun a b => decide (a ≤ b) := by
  show ((order.map ending).foldl RunOutcome.add {}).reports.mergeSort _ = _
  rw [foldl_add]
  rfl

/-! ## §3. Orders. -/

/-- Sorted texts are in order. -/
theorem pairwise_sorted (texts : List String) :
    (texts.mergeSort fun a b => decide (a ≤ b)).Pairwise (· ≤ ·) := by
  have htrans : ∀ a b c : String,
      decide (a ≤ b) = true → decide (b ≤ c) = true → decide (a ≤ c) = true := fun a b c hab hbc =>
    decide_eq_true (String.le_trans (of_decide_eq_true hab) (of_decide_eq_true hbc))
  have htotal : ∀ a b : String, (decide (a ≤ b) || decide (b ≤ a)) = true := by
    intro a b
    rw [Bool.or_eq_true, decide_eq_true_eq, decide_eq_true_eq]
    exact String.le_total a b
  exact (List.pairwise_mergeSort htrans htotal texts).imp of_decide_eq_true

/-- Texts in two orders are the same texts when they are sorted. -/
theorem sorted_perm {xs ys : List String} (h : xs.Perm ys) :
    (xs.mergeSort fun a b => decide (a ≤ b)) = ys.mergeSort fun a b => decide (a ≤ b) :=
  List.Perm.eq_of_pairwise (fun _ _ _ _ hab hba => String.le_antisymm hab hba)
    (pairwise_sorted xs) (pairwise_sorted ys)
    ((List.mergeSort_perm xs _).trans (h.trans (List.mergeSort_perm ys _).symm))

/-- **The order in which suites end is not seen in the totals and in the sorted reports.** -/
theorem outcome_perm {order results : List FileResult} (h : order.Perm results) :
    (outcome order).summary = (outcome results).summary ∧
      (outcome order).reports = (outcome results).reports := by
  have hentries : (allEntries order).Perm (allEntries results) := h.flatMap_right entries
  have hcount : ∀ s, countStatus s (allEntries order) = countStatus s (allEntries results) :=
    fun s => hentries.countP_eq _
  have hbroken : brokenCount order = brokenCount results := h.countP_eq isBroken
  constructor
  · rw [outcome_summary, outcome_summary, hentries.length_eq, hcount, hcount, hcount, hbroken]
  · rw [outcome_reports, outcome_reports, sorted_perm (h.filterMap report?)]

/-- **The books of a run:** `results` has what came of each suite file, and `o` is what is said of
all of them. -/
structure Accounts (results : List FileResult) (o : RunOutcome) : Prop where
  /-- There is a report on each suite that ran, and on no other. -/
  reports : o.reports.Perm (results.filterMap report?)
  sorted : o.reports.Pairwise (· ≤ ·)
  skipped : o.skipped.Perm (results.filterMap leftOut?)
  /-- No suite is lost, and none is counted twice. -/
  files : o.reports.length + o.skipped.length + brokenCount results = results.length
  parts : o.summary.total = o.summary.passed + o.summary.failed + o.summary.skipped
  total : o.summary.total = (allEntries results).length + brokenCount results
  passed : o.summary.passed = countStatus .pass (allEntries results)
  failed : o.summary.failed = countStatus .fail (allEntries results) + brokenCount results
  /-- A run is a success exactly if nothing failed and no suite is broken. -/
  success_iff : o.summary.success = true ↔
    (∀ e ∈ allEntries results, e.status ≠ .fail) ∧ ∀ x ∈ results, x.isBroken = false

theorem countStatus_eq_zero_iff (s : Status) (es : List Entry) :
    countStatus s es = 0 ↔ ∀ e ∈ es, e.status ≠ s := by
  unfold countStatus
  rw [List.countP_eq_zero]
  constructor
  · intro h e he heq
    exact h e he (beq_iff_eq.mpr heq)
  · intro h e he heq
    exact h e he (beq_iff_eq.mp heq)

theorem brokenCount_eq_zero_iff (results : List FileResult) :
    brokenCount results = 0 ↔ ∀ x ∈ results, x.isBroken = false := by
  unfold brokenCount
  rw [List.countP_eq_zero]
  exact forall₂_congr fun x _ => Bool.not_eq_true _ ▸ Iff.rfl

/-- The books balance if the results are taken in their own order. -/
theorem accounts_self (results : List FileResult) : Accounts results (outcome results) where
  reports := by
    rw [outcome_reports]
    exact List.mergeSort_perm _ _
  sorted := by
    rw [outcome_reports]
    exact pairwise_sorted _
  skipped := by rw [outcome_skipped]
  files := by
    rw [outcome_reports, outcome_skipped, (List.mergeSort_perm _ _).length_eq]
    exact one_of_three results
  parts := by
    rw [outcome_summary]
    -- a file that could not be read counts as one failure beside the entries
    have hsum := countStatus_sum (allEntries results)
    show (allEntries results).length + brokenCount results
      = countStatus .pass (allEntries results)
        + (countStatus .fail (allEntries results) + brokenCount results)
        + countStatus .skipped (allEntries results)
    omega
  total := by rw [outcome_summary]
  passed := by rw [outcome_summary]
  failed := by rw [outcome_summary]
  success_iff := by
    rw [outcome_summary, ← countStatus_eq_zero_iff, ← brokenCount_eq_zero_iff]
    show (_ + _ == 0) = true ↔ _
    rw [beq_iff_eq, Nat.add_eq_zero_iff]

/-- **The books balance in whatever order the suites ended.** -/
theorem accounts_of_perm {order results : List FileResult} (h : order.Perm results) :
    Accounts results (outcome order) := by
  have hself := accounts_self results
  obtain ⟨hsummary, hreports⟩ := outcome_perm h
  have hskipped : (outcome order).skipped.Perm (outcome results).skipped := by
    rw [outcome_skipped, outcome_skipped]
    exact h.filterMap leftOut?
  exact
    { reports := hreports ▸ hself.reports
      sorted := hreports ▸ hself.sorted
      skipped := hskipped.trans hself.skipped
      files := by rw [hreports, hskipped.length_eq, hself.files]
      parts := hsummary ▸ hself.parts
      total := hsummary ▸ hself.total
      passed := hsummary ▸ hself.passed
      failed := hsummary ▸ hself.failed
      success_iff := hsummary ▸ hself.success_iff }

end FileResult

/-! ## §4. Runs of all suites. -/

namespace Run

/-- **What may come of a suite file** of a tree. -/
inductive ComesOf (r : RunSetup) (tree : FileTree) (path : String) : FileResult → Prop where
  | completed {f : SuiteFile} {es : List Entry} {s s' : Store} {log : Log} (duration : Nat)
      (report : String) (opened : SuiteFile.open_ tree path = .ok f)
      (passes : f.suite.passes r.filters = true)
      (runs : (suiteEntries r f f.suite).Runs s log (.ok es) s') :
      ComesOf r tree path (.completed f.suite.name f.suite.tags es duration report)
  | filtered {f : SuiteFile} (opened : SuiteFile.open_ tree path = .ok f)
      (fails : f.suite.passes r.filters = false) : ComesOf r tree path (.filtered f.suite.name)
  | broken {e : Failure} {s s' : Store} {log : Log}
      (runs : (runPath r tree path).Runs s log (.error e) s') : ComesOf r tree path (.broken e)

variable {r : RunSetup} {tree : FileTree} {s s' : Store} {log : Log}

/-- The report on a suite, if there is one, was written in a part of a run. -/
def FiledIn (r : RunSetup) (x : FileResult) (log : Log) : Prop :=
  ∀ report path, x.filed? = some (report, path) →
    ∃ m part m', List.Sublist part log ∧ (writeReport r report).Runs m part (.ok path) m'

/-- A suite file that did not fail ran and was reported on, or the filters left it out. -/
theorem runPath_result {path : String} {e : SuiteEnding}
    (h : (runPath r tree path).Runs s log (.ok e) s') :
    ∃ x, (ComesOf r tree path x ∧ FiledIn r x log) ∧ e = x.ending := by
  unfold runPath at h
  obtain ⟨_, _, _, hfails, -⟩ | ⟨f, hopened, hfile⟩ := Task.runs_ofExcept_bind_iff.mp h
  · cases hfails
  unfold runFile at hfile
  cases hpasses : f.suite.passes r.filters with
  | false =>
    rw [hpasses, Bool.not_false, if_pos rfl] at hfile
    obtain ⟨-, he, -⟩ := Task.runs_pure_iff.mp hfile
    cases he
    refine ⟨.filtered f.suite.name, ⟨.filtered hopened hpasses, ?_⟩, rfl⟩
    intro report path hnone
    cases hnone
  | true =>
    rw [hpasses, Bool.not_true, if_neg Bool.false_ne_true] at hfile
    obtain ⟨started, _, rfl, hstarted⟩ := Task.runs_ask_bind_iff.mp hfile
    obtain ⟨_, hfails, -⟩ | ⟨_, _, es, m, rfl, hentries, hdone⟩ :=
      (Task.runs_bind_iff _ _).mp hstarted
    · cases hfails
    obtain ⟨finished, _, rfl, hfinished⟩ := Task.runs_ask_bind_iff.mp hdone
    obtain ⟨_, hfails, -⟩ | ⟨written, _, report, _, rfl, hwritten, hreported⟩ :=
      (Task.runs_bind_iff _ _).mp hfinished
    · cases hfails
    obtain ⟨rfl, he, -⟩ := Task.runs_pure_iff.mp hreported
    cases he
    refine ⟨.completed f.suite.name f.suite.tags es _ report,
      ⟨.completed _ report hopened hpasses hentries, ?_⟩, rfl⟩
    rintro _ _ ⟨⟩
    -- the report is written at the end, when all entries are there
    have hlast : List.Sublist written (⟨.clock, finished⟩ :: (written ++ [])) := by
      rw [List.append_nil]
      exact List.sublist_cons_self _ _
    exact ⟨_, written, _, (hlast.trans (List.sublist_append_right _ _)).cons _, hwritten⟩

/-- **Suite files are taken up one after another,** whatever came of those before them: what holds
of the run of each file and its result holds of all of them. -/
theorem endings_each {P : String → Log → FileResult → Prop}
    (hok : ∀ {path s log e s'}, (runPath r tree path).Runs s log (.ok e) s' →
      ∃ x, P path log x ∧ e = x.ending)
    (hbroken : ∀ {path s log f s'}, (runPath r tree path).Runs s log (.error f) s' →
      P path log (.broken f))
    (paths : List String) :
    ∀ {s s' : Store} {log : Log} {q : Except Failure (List SuiteEnding)},
      (endings r tree paths).Runs s log q s' →
      ∃ parts : List (Log × FileResult), q = .ok (parts.map fun part => part.2.ending) ∧
        log = (parts.map Prod.fst).flatten ∧
        List.Forall₂ (fun path part => P path part.1 part.2) paths parts := by
  induction paths with
  | nil =>
    intro s s' log q h
    obtain ⟨rfl, rfl, -⟩ := Task.runs_pure_iff.mp h
    exact ⟨[], rfl, rfl, .nil⟩
  | cons path rest ih =>
    intro s s' log q h
    unfold endings at h
    obtain ⟨first, last, ended, m, rfl, hpath, hmore⟩ := Task.runs_result_bind_iff.mp h
    -- a failure of this file is its result, and the others are taken up all the same
    have hresult : ∃ x, P path first x ∧
        Task.Runs (do let more ← endings r tree rest; return x.ending :: more) m last q s' := by
      cases ended with
      | error f => exact ⟨.broken f, hbroken hpath, hmore⟩
      | ok e =>
        obtain ⟨x, hx, rfl⟩ := hok hpath
        exact ⟨x, hx, hmore⟩
    obtain ⟨x, hx, hmore⟩ := hresult
    obtain ⟨_, rfl, hfails⟩ | ⟨_, _, more, _, rfl, hmore, hpure⟩ :=
      (Task.runs_bind_iff _ _).mp hmore
    · obtain ⟨_, hends, -⟩ := ih hfails
      cases hends
    · obtain ⟨parts, hends, rfl, hparts⟩ := ih hmore
      cases hends
      obtain ⟨rfl, rfl, -⟩ := Task.runs_pure_iff.mp hpure
      exact ⟨(first, x) :: parts, rfl, by rw [List.append_nil]; rfl, .cons hx hparts⟩

/-- **Every suite file has a result.** -/
theorem endings_results (paths : List String) {q : Except Failure (List SuiteEnding)}
    (h : (endings r tree paths).Runs s log q s') :
    ∃ results, q = .ok (results.map FileResult.ending) ∧
      List.Forall₂ (ComesOf r tree) paths results := by
  obtain ⟨parts, rfl, -, hparts⟩ := endings_each (P := fun path _ => ComesOf r tree path)
    (fun hruns => by
      obtain ⟨x, ⟨hx, -⟩, he⟩ := runPath_result hruns
      exact ⟨x, hx, he⟩) .broken paths h
  exact ⟨parts.map Prod.snd, by rw [List.map_map]; rfl, List.forall₂_map_right_iff.mpr hparts⟩

/-- **A run of all suites** ends with the outcome of one result for each suite file. -/
theorem runAll_results (r : RunSetup) (b : Behaviour outside) (s : Store) (past : Log)
    {paths : List String}
    (hpaths : SuiteFile.discover (b past (.files r.settings.suitesDir)) r.settings.suitesDir
      = .ok paths) :
    ∃ results s' past',
      Task.play b (runAll r) s past = ((.ok (FileResult.outcome results), s'), past') ∧
      List.Forall₂ (ComesOf r (b past (.files r.settings.suitesDir))) paths results := by
  let asked : Event outside := ⟨.files r.settings.suitesDir, b past (.files r.settings.suitesDir)⟩
  -- the first question is the one for the files, so the rest runs after its answer
  let rest : Task Store RunOutcome := do
    return .ofEndings (← endings r (b past (.files r.settings.suitesDir)) paths)
  have hplay : Task.play b (runAll r) s past = Task.play b rest s (past ++ [asked]) := by
    show Task.play b (Task.ofExcept (SuiteFile.discover _ _) >>= _) s (past ++ [asked]) = _
    rw [hpaths]
    rfl
  rw [hplay]
  obtain ⟨log, q, s', hrest, hruns⟩ := Task.exists_play b rest s (past ++ [asked])
  rw [hrest]
  obtain ⟨_, _, hfails⟩ | ⟨_, _, es, m, rfl, hendings, hpure⟩ := (Task.runs_bind_iff _ _).mp hruns
  · obtain ⟨_, hok, -⟩ := endings_results paths hfails
    cases hok
  · obtain ⟨results, hok, hresults⟩ := endings_results paths hendings
    cases hok
    obtain ⟨-, rfl, -⟩ := Task.runs_pure_iff.mp hpure
    exact ⟨results, s', _, rfl, hresults⟩

/-- How many suites run at a time. -/
def atATime (r : RunSetup) : Nat := max r.settings.maxConcurrency 1

theorem atATime_pos (r : RunSetup) : 0 < atATime r :=
  Nat.lt_of_lt_of_le Nat.one_pos (Nat.le_max_right _ _)

/-- **NO SUITE IS LOST, AND NONE IS COUNTED TWICE.**  A run of all suites ends, whatever the outside
does, with the outcome of one result for each suite file.  Suites that run a few at a time never
wait for one another in a circle, and may end in many orders, that of the files being one of them.
Whatever came of each suite, the books balance in every such order, and neither the totals nor the
sorted reports show in which of them the suites ended. -/
theorem runAll_adds_up (r : RunSetup) :
    (∀ (b : Behaviour outside) (s : Store) (past : Log) (paths : List String),
      SuiteFile.discover (b past (.files r.settings.suitesDir)) r.settings.suitesDir = .ok paths →
      ∃ results s' past',
        Task.play b (runAll r) s past = ((.ok (FileResult.outcome results), s'), past') ∧
        List.Forall₂ (ComesOf r (b past (.files r.settings.suitesDir))) paths results) ∧
    ∀ results : List FileResult,
      (∀ p, Pool.Reaches (atATime r) ⟨results, [], []⟩ p →
        p.running.length ≤ atATime r ∧ ∃ order, Pool.Reaches (atATime r) p ⟨[], [], order⟩) ∧
      Pool.Completes (atATime r) results results ∧
      ∀ order, Pool.Completes (atATime r) results order →
        FileResult.Accounts results (FileResult.outcome order) ∧
        (FileResult.outcome order).summary = (FileResult.outcome results).summary ∧
        (FileResult.outcome order).reports = (FileResult.outcome results).reports := by
  refine ⟨fun b s past paths hpaths => runAll_results r b s past hpaths, fun results => ⟨?_, ?_, ?_⟩⟩
  · -- the pool never holds more than the bound, and it always runs empty
    intro p hp
    obtain ⟨order, hend, -⟩ := Pool.exists_completion (atATime_pos r) p
    exact ⟨hp.within (Nat.zero_le _), _, hend⟩
  · exact Pool.completes_in_order (atATime_pos r) results
  · -- the order of completion changes neither the sums nor the sorted reports
    intro order horder
    exact ⟨FileResult.accounts_of_perm horder.perm, FileResult.outcome_perm horder.perm⟩

/-- One suite that ran, one that was left out, and one that failed. -/
def threeResults : List FileResult :=
  [.completed "first" [] [{ status := .pass }, { status := .skipped }] 0 "first.json",
    .filtered "second", .broken (.suiteLoad "third")]

/-- Below the directory of suites is a file that is no suite. -/
def oneFile : FileTree := ⟨[(["test-suites", "third.json"], .text "")]⟩

/-- The last suite ends first. -/
theorem runAll_adds_up_backwards :
    (∃ results s' past',
      Task.play (idle oneFile) (runAll {}) default []
        = ((.ok (FileResult.outcome results), s'), past') ∧
      List.Forall₂ (ComesOf {} oneFile) ["test-suites/third.json"] results) ∧
    FileResult.Accounts threeResults (FileResult.outcome threeResults.reverse) ∧
    (FileResult.outcome threeResults.reverse).summary.failed = 1 := by
  obtain ⟨hends, hbooks⟩ := runAll_adds_up {}
  obtain ⟨-, -, horders⟩ := hbooks threeResults
  have hreverse : Pool.Completes 3 threeResults threeResults.reverse :=
    Pool.completes_of_perm (Nat.le_refl 3) (List.reverse_perm threeResults)
  have hpaths : SuiteFile.discover oneFile "test-suites" = .ok ["test-suites/third.json"] :=
    eq_ok_of_toOption (by decide +kernel)
  exact ⟨hends (idle oneFile) default [] _ hpaths, (horders _ hreverse).1, rfl⟩

end Run

end SuiteRunner

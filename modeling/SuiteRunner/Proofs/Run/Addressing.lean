import SuiteRunner.Proofs.Api.Accounting
import SuiteRunner.Proofs.Outside.Transcript
import SuiteRunner.Proofs.Ui.Skipping
import SuiteRunner.Run.Execution

/-!
  SuiteRunner.Proofs.Run.Addressing
  ────────────────────────────────
  **A PART RUNS ALONE AS IT DOES IN THE WHOLE.**

  The two kinds of suites run their cases in one and the same way: one after another on one store,
  and none of them fails as a whole.

    • `suiteEntries_eq` — a suite of either kind is its cases in order,
    • `neverFails_caseRun`, `neverFails_inOrder` — a case leaves entries, and so do cases in order.

  A run reaches a case in three ways: as one of all cases of its suite, as the only case of a suite
  that was cut down to it, or through the position of one of its data items.  All three come to the
  same runs:

    • `caseRun_withSingleCase` — a case does not see the other cases of its suite,
    • `suiteEntries_withSingleCase` — a suite cut down to one case is a run of that case,
    • `play_inOrder`, `play_apiCase` — cases, and items, in order are runs one after another,
    • `parts_agree` — whole, partial and single runs agree.
-/

namespace SuiteRunner

open SuiteRunner.Task (NeverFails)

namespace Run

/-! ## §1. Cases in order. -/

/-- The entries of one case of a suite. -/
def caseRun (r : RunSetup) (f : SuiteFile) (suite : Suite) (c : TestCase) :
    Task Store (List Entry) :=
  match suite.kind with
  | .api => Api.runCase (r.api f) suite c
  | .ui => Ui.runCase r.ui suite c

/-- Cases one after another. -/
def inOrder (run : TestCase → Task Store (List Entry)) : List TestCase → Task Store (List Entry)
  | [] => return []
  | c :: rest => do
    let es ← run c
    let more ← inOrder run rest
    return es ++ more

theorem api_runCases_eq (setup : ApiSetup) (suite : Suite) (cases : List TestCase) :
    Api.runCases setup suite cases = inOrder (Api.runCase setup suite) cases := by
  induction cases with
  | nil => rfl
  | cons c rest ih =>
    unfold Api.runCases inOrder
    rw [ih]

theorem ui_runCases_eq (setup : UiSetup) (suite : Suite) (cases : List TestCase) :
    Ui.runCases setup suite cases = inOrder (Ui.runCase setup suite) cases := by
  induction cases with
  | nil => rfl
  | cons c rest ih =>
    unfold Ui.runCases inOrder
    rw [ih]

/-- **A suite of either kind is its cases in order.** -/
theorem suiteEntries_eq (r : RunSetup) (f : SuiteFile) (suite : Suite) :
    suiteEntries r f suite = inOrder (caseRun r f suite) suite.cases := by
  unfold suiteEntries caseRun
  cases suite.kind with
  | api => exact api_runCases_eq _ suite suite.cases
  | ui => exact ui_runCases_eq _ suite suite.cases

theorem neverFails_caseRun (r : RunSetup) (f : SuiteFile) (suite : Suite) (c : TestCase) :
    NeverFails (caseRun r f suite c) := by
  intro s log result s' hruns
  unfold caseRun at hruns
  cases hkind : suite.kind with
  | api =>
    rw [hkind] at hruns
    obtain ⟨parts, hcuts, -⟩ := Api.runItems_accounts c.data 0 hruns
    exact ⟨_, hcuts.result_eq⟩
  | ui =>
    -- the steps leave entries, and a browser that does not close is passed over
    rw [hkind] at hruns
    obtain ⟨g, hstage, -⟩ := Task.runs_focus_iff.mp hruns
    obtain ⟨_, _, es, _, -, -, hclosing⟩ :=
      ((Ui.neverFails_runSteps c.steps).runs_bind_iff _).mp hstage
    obtain ⟨_, _, _, _, -, -, hend⟩ := Task.runs_result_bind_iff.mp hclosing
    exact ⟨es, (Task.runs_pure_iff.mp hend).2.1⟩

/-- Cases in order leave entries if each of them does. -/
theorem neverFails_inOrder {run : TestCase → Task Store (List Entry)}
    (hrun : ∀ c, NeverFails (run c)) (cases : List TestCase) : NeverFails (inOrder run cases) := by
  induction cases with
  | nil =>
    intro s log result s' hruns
    exact ⟨[], (Task.runs_pure_iff.mp hruns).2.1⟩
  | cons c rest ih =>
    intro s log result s' hruns
    obtain ⟨_, _, es, _, -, -, hrest⟩ := ((hrun c).runs_bind_iff _).mp hruns
    obtain ⟨_, _, more, _, -, -, hend⟩ := (ih.runs_bind_iff _).mp hrest
    exact ⟨es ++ more, (Task.runs_pure_iff.mp hend).2.1⟩

/-! ## §2. Runs one after another. -/

/-- What runs under a behaviour come to: entries or a failure, the variables, and the past. -/
abbrev Played := (Except Failure (List Entry) × Store) × Log

/-- **Runs made one after another** under a behaviour.  Each begins with the variables and in the
past that the one before it left, and the entries of all of them stand in a row. -/
def inTurn (b : Behaviour outside) : List (Task Store (List Entry)) → Store → Log → Played
  | [], s, past => ((.ok [], s), past)
  | t :: rest, s, past =>
    match Task.play b t s past with
    | ((.error e, m), mid) => ((.error e, m), mid)
    | ((.ok es, m), mid) =>
      let ((more, s'), past') := inTurn b rest m mid
      ((more.map (es ++ ·), s'), past')

/-- A run and what comes after it, if that is made of runs one after another. -/
theorem play_append {b : Behaviour outside} (t : Task Store (List Entry))
    {u : Task Store (List Entry)} {rest : List (Task Store (List Entry))}
    (hrest : ∀ m mid, Task.play b u m mid = inTurn b rest m mid) (s : Store) (past : Log) :
    Task.play b (do let es ← t; let more ← u; return es ++ more) s past
      = inTurn b (t :: rest) s past := by
  rw [Task.play_bind]
  unfold inTurn
  obtain ⟨⟨first, m⟩, mid⟩ := Task.play b t s past
  cases first with
  | error e => rfl
  | ok es =>
    -- only after a success is there anything to come
    show Task.play b (u >>= fun more => pure (es ++ more)) m mid = _
    rw [Task.play_bind, hrest]
    dsimp only
    obtain ⟨⟨more, s'⟩, past'⟩ := inTurn b rest m mid
    cases more with
    | error e => rfl
    | ok more => rfl

/-- **Cases in order are runs one after another.** -/
theorem play_inOrder (b : Behaviour outside) (run : TestCase → Task Store (List Entry))
    (cases : List TestCase) (s : Store) (past : Log) :
    Task.play b (inOrder run cases) s past = inTurn b (cases.map run) s past := by
  induction cases generalizing s past with
  | nil => rfl
  | cons c rest ih => exact play_append (run c) ih s past

/-! ## §3. Cases alone. -/

/-- A case of an API suite needs of the suite what is left of it when it is cut down. -/
theorem runItems_withSingleCase (setup : ApiSetup) (suite : Suite) (only c : TestCase)
    (items : List DataItem) : ∀ index,
      Api.runItems setup (suite.withSingleCase only) c index items
        = Api.runItems setup suite c index items := by
  induction items with
  | nil => exact fun _ => rfl
  | cons item rest ih =>
    intro index
    unfold Api.runItems
    rw [ih]
    rfl

/-- A case of a UI suite alone runs its steps as it does among others. -/
theorem runSteps_withSingleCase (setup : UiSetup) (suite : Suite) (only c : TestCase)
    (steps : List Step) : ∀ anyFailed index,
      Ui.runSteps setup (suite.withSingleCase only) c anyFailed index steps
        = Ui.runSteps setup suite c anyFailed index steps := by
  induction steps with
  | nil => exact fun _ _ => rfl
  | cons step rest ih =>
    intro anyFailed index
    unfold Ui.runSteps
    simp only [ih]
    rfl

/-- **A case does not see the other cases of its suite.** -/
theorem caseRun_withSingleCase (r : RunSetup) (f : SuiteFile) (suite : Suite) (only c : TestCase) :
    caseRun r f (suite.withSingleCase only) c = caseRun r f suite c := by
  have hkind : (suite.withSingleCase only).kind = suite.kind := rfl
  unfold caseRun
  rw [hkind]
  cases suite.kind with
  | api => exact runItems_withSingleCase _ suite only c c.data 0
  | ui =>
    show Ui.runCase r.ui (suite.withSingleCase only) c = Ui.runCase r.ui suite c
    unfold Ui.runCase Ui.caseOnStage
    rw [runSteps_withSingleCase]

/-- **A suite cut down to one case is a run of that case.** -/
theorem suiteEntries_withSingleCase (r : RunSetup) (f : SuiteFile) (suite : Suite) (c : TestCase) :
    suiteEntries r f (suite.withSingleCase c) = caseRun r f suite c := by
  rw [suiteEntries_eq]
  show (do let es ← caseRun r f (suite.withSingleCase c) c; let more ← pure []; return es ++ more)
    = _
  rw [caseRun_withSingleCase]
  simp only [pure_bind, List.append_nil, bind_pure]

/-! ## §4. Data items alone. -/

/-- The run of one data item of a case, in the suite that is cut down to the case. -/
def itemAlone (r : RunSetup) (f : SuiteFile) (c : TestCase) (i : Nat) :
    Task Store (List Entry) := do
  return [← Api.runDataItem (r.api f) (f.suite.withSingleCase c) c i]

/-- The items of a case from a position on, each run through its position. -/
theorem play_runItems (r : RunSetup) (f : SuiteFile) (b : Behaviour outside) (c : TestCase)
    (items : List DataItem) : ∀ (index : Nat), c.data.drop index = items →
      ∀ (s : Store) (past : Log),
        Task.play b (Api.runItems (r.api f) f.suite c index items) s past
          = inTurn b ((List.range' index items.length).map (itemAlone r f c)) s past := by
  -- on the items that are left; the first of them stands at `index`
  induction items with
  | nil => exact fun _ _ _ _ => rfl
  | cons item rest ih =>
    intro index hdrop s past
    have hitem : c.data[index]? = some item := by
      rw [← List.head?_drop, hdrop]
      rfl
    have hrest : c.data.drop (index + 1) = rest := by
      rw [← List.tail_drop, hdrop]
      rfl
    have halone : itemAlone r f c index
        = (do return [← Api.runItem (r.api f) f.suite c index item]) := by
      unfold itemAlone Api.runDataItem
      rw [hitem]
      rfl
    have hcons : Api.runItems (r.api f) f.suite c index (item :: rest)
        = (do
            let es ← itemAlone r f c index
            let more ← Api.runItems (r.api f) f.suite c (index + 1) rest
            return es ++ more) := by
      rw [halone]
      simp only [bind_assoc, pure_bind, List.singleton_append]
      rfl
    rw [hcons]
    exact play_append _ (ih (index + 1) hrest) s past

/-- **A case of an API suite is its items, each run through its position.** -/
theorem play_apiCase (r : RunSetup) (f : SuiteFile) (b : Behaviour outside) (c : TestCase)
    (s : Store) (past : Log) :
    Task.play b (Api.runCase (r.api f) f.suite c) s past
      = inTurn b ((List.range c.data.length).map (itemAlone r f c)) s past := by
  rw [List.range_eq_range']
  exact play_runItems r f b c c.data 0 rfl s past

/-! ## §5. The three ways agree. -/

/-- A target that names a case is a run of the suite that is cut down to it. -/
theorem entries_testCase (r : RunSetup) (f : SuiteFile) {sid sname id name : String} {c : TestCase}
    (hcase : f.suite.caseMeant id name = .ok c) :
    entries r f (.testCase sid sname id name) = suiteEntries r f (f.suite.withSingleCase c) := by
  show (do let c ← Task.ofExcept (f.suite.caseMeant id name)
           suiteEntries r f (f.suite.withSingleCase c)) = _
  rw [hcase]
  rfl

/-- A target that names a data item is a run of that item through its position. -/
theorem entries_dataItem (r : RunSetup) (f : SuiteFile) {sid sname id name dname : String}
    {index i : Nat} {c : TestCase} (hkind : f.suite.kind = .api)
    (hcase : f.suite.caseMeant id name = .ok c) (hitem : c.positionMeant index dname = .ok i) :
    entries r f (.dataItem sid sname id name index dname) = itemAlone r f c i := by
  have hdata : f.suite.refuseData = .ok () := by
    unfold Suite.refuseData
    rw [hkind]
  show itemEntries r f id name index dname = _
  unfold itemEntries
  rw [hdata, hcase]
  show (do let i ← Task.ofExcept (c.positionMeant index dname)
           return [← Api.runDataItem (r.api f) (f.suite.withSingleCase c) c i]) = _
  rw [hitem]
  rfl

/-- The whole of a suite, its cases alone and their items alone are the same runs. -/
structure PartsAgree (r : RunSetup) (f : SuiteFile) : Prop where
  /-- A suite is its single cases one after another: entries, variables and questions. -/
  whole : ∀ b s past,
    Task.play b (suiteEntries r f f.suite) s past
      = inTurn b (f.suite.cases.map fun c => suiteEntries r f (f.suite.withSingleCase c)) s past
  /-- None of the runs fails as a whole, so that the last case is always reached. -/
  ends : ∀ b s past, ∃ es s' past',
    Task.play b (suiteEntries r f f.suite) s past = ((.ok es, s'), past')
  /-- A single case of an API suite is what runs in the whole. -/
  apiCase : f.suite.kind = .api → ∀ c,
    suiteEntries r f (f.suite.withSingleCase c) = Api.runCase (r.api f) f.suite c
  /-- And so is a single case of a UI suite. -/
  uiCase : f.suite.kind = .ui → ∀ c,
    suiteEntries r f (f.suite.withSingleCase c) = Ui.runCase r.ui f.suite c
  /-- A case of an API suite is its items one after another, from the first position on. -/
  items : f.suite.kind = .api → ∀ c b s past,
    Task.play b (Api.runCase (r.api f) f.suite c) s past
      = inTurn b ((List.range c.data.length).map (itemAlone r f c)) s past
  /-- The target of a case runs the single case. -/
  caseTarget : ∀ sid sname id name c, f.suite.caseMeant id name = .ok c →
    entries r f (.testCase sid sname id name) = suiteEntries r f (f.suite.withSingleCase c)
  /-- The target of an item runs the single item. -/
  itemTarget : f.suite.kind = .api → ∀ sid sname id name index dname c i,
    f.suite.caseMeant id name = .ok c → c.positionMeant index dname = .ok i →
      entries r f (.dataItem sid sname id name index dname) = itemAlone r f c i

/-- **WHOLE, PARTIAL AND SINGLE RUNS AGREE,** for every suite file, from every store and whatever
the outside does. -/
theorem parts_agree (r : RunSetup) (f : SuiteFile) : PartsAgree r f where
  whole b s past := by
    rw [suiteEntries_eq, play_inOrder]
    simp only [suiteEntries_withSingleCase]
  ends b s past := by
    obtain ⟨log, result, s', hplay, hruns⟩ := Task.exists_play b (suiteEntries r f f.suite) s past
    rw [suiteEntries_eq] at hruns
    -- failures of items and steps are entries, so no case keeps the next one from its run
    have hcases := neverFails_inOrder (neverFails_caseRun r f f.suite) f.suite.cases
    obtain ⟨es, rfl⟩ := hcases _ _ _ _ hruns
    exact ⟨es, s', _, hplay⟩
  apiCase hkind c := by
    rw [suiteEntries_withSingleCase]
    unfold caseRun
    rw [hkind]
  uiCase hkind c := by
    rw [suiteEntries_withSingleCase]
    unfold caseRun
    rw [hkind]
  items _ c b s past := play_apiCase r f b c s past
  caseTarget _ _ _ _ _ hcase := entries_testCase r f hcase
  itemTarget hkind _ _ _ _ _ _ _ _ hcase hitem := entries_dataItem r f hkind hcase hitem

/-- A suite of two cases with three items. -/
def mill : SuiteFile :=
  ⟨"mill.json",
    { id := "mill", name := "Mill", kind := .api, baseUrl := "http://mill", cases := [
      { id := "c1", name := "grind", kind := .rest, data := [
        { name := "oats", method := "GET", endpoint := "/oats" },
        { name := "rye", method := "GET", endpoint := "/rye" }] },
      { id := "c2", name := "pack", kind := .rest, data := [
        { name := "sack", method := "GET", endpoint := "/sack" }] }] }⟩

/-- The second item of the first case is run alone, with the first case, and with the whole, and it
has the same position in each of them. -/
theorem parts_agree_mill :
    let seen := fun (played : Played) =>
      played.1.1.toOption.map (·.map fun e => (e.caseName, e.name, e.index))
    ∃ c, mill.suite.caseMeant "" "grind" = .ok c ∧ c.positionMeant 1 "" = .ok 1 ∧
      entries {} mill (.testCase "mill" "" "" "grind")
        = suiteEntries {} mill (mill.suite.withSingleCase c) ∧
      entries {} mill (.dataItem "mill" "" "" "grind" 1 "") = itemAlone {} mill c 1 ∧
      seen (Task.play (idle default) (itemAlone {} mill c 1) (.ofRegistry none) [])
        = some [("grind", "rye", 1)] ∧
      seen (inTurn (idle default) ((List.range c.data.length).map (itemAlone {} mill c))
          (.ofRegistry none) [])
        = some [("grind", "oats", 0), ("grind", "rye", 1)] ∧
      seen (inTurn (idle default)
          (mill.suite.cases.map fun c => suiteEntries {} mill (mill.suite.withSingleCase c))
          (.ofRegistry none) [])
        = some [("grind", "oats", 0), ("grind", "rye", 1), ("pack", "sack", 0)] := by
  have hagree := parts_agree {} mill
  refine ⟨mill.suite.cases[0]?.getD default, rfl, rfl, hagree.caseTarget _ _ _ _ _ rfl,
    hagree.itemTarget rfl _ _ _ _ _ _ _ _ rfl rfl, by decide +kernel, ?_, ?_⟩
  · rw [← hagree.items rfl]
    decide +kernel
  · rw [← hagree.whole]
    decide +kernel

end Run

end SuiteRunner

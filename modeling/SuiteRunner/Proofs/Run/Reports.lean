import Mathlib.Data.List.Nodup
import SuiteRunner.Proofs.Run.Totals
import SuiteRunner.Proofs.Text.Cutting
import SuiteRunner.Proofs.Time.Stamps

/-!
  SuiteRunner.Proofs.Run.Reports
  ────────────────────────────────
  **WHEN THE REPORTS OF A RUN ARE KEPT APART.**

  The file of a report is named for its suite, with underscores for what may not stand in the name
  of a file, and for the millisecond in which it is written.  Neither has to be the suite's own:
  different names may look the same, and two suites may end within one millisecond.

    • `fileName_inj` — the name of a file tells how the suite's name looks, and the millisecond,
    • `Filing.path_eq_iff` — so two reports share a file exactly if both are the same for them,
    • `runAll_filed` — a run of all suites files one report for each suite that ran,
    • `reports_distinct_iff` — when all of them are kept, and what is in the files,
    • `report_overwritten` — when one of them is lost.
-/

namespace SuiteRunner

open SuiteRunner.Time (Moment)

/-! ## §1. Names of files. -/

theorem toList_fileName (suiteName stamp : String) :
    (Report.fileName suiteName stamp).toList
      = (fileStem suiteName).toList ++ '-' :: (stamp.toList ++ ".json".toList) := by
  unfold Report.fileName
  simp only [String.toList_append, List.append_assoc]
  rfl

/-- **The name of a file tells how the name of its suite looks, and when it was written.**  Hyphens
may stand in the first part, so it ends at the last of them. -/
theorem fileName_inj {a b : String} {t u : Int} (ht : 0 ≤ t) (hu : 0 ≤ u) :
    Report.fileName a (Moment.ofMillis t).stamp = Report.fileName b (Moment.ofMillis u).stamp
      ↔ fileStem a = fileStem b ∧ t = u := by
  constructor
  · intro h
    have hlist := congrArg String.toList h
    have hend : '-' ∉ ".json".toList := by decide
    have hhyphen : ∀ {ms : Int}, 0 ≤ ms →
        '-' ∉ (Moment.ofMillis ms).stamp.toList ++ ".json".toList := fun hms hmem =>
      (List.mem_append.mp hmem).elim (Moment.fits_ofMillis hms).hyphen_notMem hend
    rw [toList_fileName, toList_fileName] at hlist
    -- the hyphen between the two parts is the last one, since a stamp has none
    obtain ⟨hstem, hstamp⟩ := Text.cut_at_last hlist (hhyphen ht) (hhyphen hu)
    exact ⟨String.toList_injective hstem,
      (Moment.stamp_inj ht hu).mp (String.toList_injective (List.append_cancel_right hstamp))⟩
  · rintro ⟨hstem, rfl⟩
    unfold Report.fileName
    rw [hstem]

/-- No name of a report begins with a slash. -/
theorem isAbsolute_fileName (suiteName stamp : String) :
    Path.isAbsolute (Report.fileName suiteName stamp) = false := by
  unfold Path.isAbsolute
  rw [toList_fileName]
  have hstem : (fileStem suiteName).toList
      = suiteName.toList.map fun c => if isFileNameChar c then c else '_' := String.toList_ofList
  rw [hstem]
  cases suiteName.toList with
  | nil => rfl
  | cons c rest =>
    show (some (if isFileNameChar c then c else '_') == some '/') = false
    by_cases hc : isFileNameChar c = true
    · rw [if_pos hc]
      refine beq_eq_false_iff_ne.mpr fun hslash => ?_
      rw [Option.some.inj hslash] at hc
      exact absurd hc (by decide)
    · rw [if_neg hc]
      rfl

/-- The path of a report has the same beginning as those of all others in its directory. -/
theorem join_fileName (dir : String) : ∃ front : String, ∀ suiteName stamp,
    Path.join dir (Report.fileName suiteName stamp) = front ++ Report.fileName suiteName stamp := by
  by_cases hdir : (dir.isEmpty || Path.endsInSlash dir) = true
  · refine ⟨dir, fun suiteName stamp => ?_⟩
    unfold Path.join
    rw [isAbsolute_fileName, if_neg Bool.false_ne_true, if_pos hdir]
  · refine ⟨dir ++ "/", fun suiteName stamp => ?_⟩
    unfold Path.join
    rw [isAbsolute_fileName, if_neg Bool.false_ne_true, if_neg hdir]

/-! ## §2. Filings. -/

/-- A report that was written, and the reading of the clock by which its file was named. -/
structure Filing where
  report : Report
  time : Int

namespace Filing

/-- The path of the file. -/
def path (r : RunSetup) (f : Filing) : String :=
  Path.join r.settings.reportsDir
    (Report.fileName f.report.summary.suiteName (Moment.ofMillis f.time).stamp)

/-- The text of the file. -/
def text (f : Filing) : String := f.report.toJson.pretty

/-- What was asked of the outside, which had nothing against it. -/
def asked (r : RunSetup) (f : Filing) : Log :=
  [⟨.clock, f.time⟩, ⟨.writeText (f.path r) f.text, .ok ()⟩]

/-- **Two reports that clash:** the names of their suites look the same, and so do their times. -/
def Clashes (f g : Filing) : Prop :=
  fileStem f.report.summary.suiteName = fileStem g.report.summary.suiteName ∧ f.time = g.time

/-- **Two reports share a file exactly if they clash.** -/
theorem path_eq_iff (r : RunSetup) {f g : Filing} (hf : 0 ≤ f.time) (hg : 0 ≤ g.time) :
    f.path r = g.path r ↔ f.Clashes g := by
  obtain ⟨front, hfront⟩ := join_fileName r.settings.reportsDir
  unfold path Clashes
  rw [hfront, hfront, ← fileName_inj hf hg]
  constructor
  · intro h
    have hlist := congrArg String.toList h
    rw [String.toList_append, String.toList_append] at hlist
    exact String.toList_injective (List.append_cancel_left hlist)
  · exact congrArg _

/-- What is in the file at a path after reports were written in an order: the last one stays. -/
def textAt (r : RunSetup) (path : String) (order : List Filing) : Option String :=
  (order.reverse.find? fun f => f.path r == path).map text

/-- A report that has its path to itself is in its file in the end. -/
theorem textAt_of_alone {r : RunSetup} {order : List Filing} {f : Filing} (hf : f ∈ order)
    (halone : ∀ g ∈ order, g.path r = f.path r → g = f) :
    textAt r (f.path r) order = some f.text := by
  unfold textAt
  obtain ⟨g, hg⟩ : ∃ g, order.reverse.find? (fun g => g.path r == f.path r) = some g := by
    rw [← Option.isSome_iff_exists, List.find?_isSome]
    exact ⟨f, List.mem_reverse.mpr hf, beq_self_eq_true _⟩
  have hmem : g ∈ order := List.mem_reverse.mp (List.mem_of_find?_eq_some hg)
  have hpath : (g.path r == f.path r) = true :=
    List.find?_some (p := fun g : Filing => g.path r == f.path r) hg
  rw [hg, halone g hmem (beq_iff_eq.mp hpath)]
  rfl

/-- Reports at different paths are all kept, in whatever order they were written. -/
theorem kept_of_nodup {r : RunSetup} {order : List Filing} (h : (order.map (path r)).Nodup) :
    ∀ f ∈ order, textAt r (f.path r) order = some f.text := by
  intro f hf
  exact textAt_of_alone hf fun g hg hpath => List.inj_on_of_nodup_map h hg hf hpath

/-- Of two different reports at one path, one is lost. -/
theorem lost_of_shared {r : RunSetup} {f g : Filing} (hpath : f.path r = g.path r)
    (hdifferent : f.text ≠ g.text) (order : List Filing) :
    textAt r (f.path r) order ≠ some f.text ∨ textAt r (g.path r) order ≠ some g.text := by
  by_contra hboth
  obtain ⟨hfirst, hsecond⟩ := not_or.mp hboth
  rw [not_not] at hfirst hsecond
  rw [hpath, hsecond] at hfirst
  exact hdifferent (Option.some.inj hfirst).symm

end Filing

/-! ## §3. Runs. -/

namespace Run

variable {r : RunSetup} {s s' : Store} {log : Log}

/-- A report is filed by its name and the time. -/
theorem asked_of_writeReport {report : Report} {path : String}
    (h : (writeReport r report).Runs s log (.ok path) s') :
    ∃ f : Filing, f.report = report ∧ f.path r = path ∧ (f.asked r).Sublist log := by
  unfold writeReport at h
  -- three questions: for the directory, which may be refused, for the time, and for the file
  obtain ⟨made, _, rfl, hmade⟩ := Task.runs_ask_bind_iff.mp h
  obtain ⟨_, _, _, hfails, -⟩ | ⟨_, -, hready⟩ := Task.runs_ofExcept_bind_iff.mp hmade
  · cases hfails
  obtain ⟨now, _, rfl, hnow⟩ := Task.runs_ask_bind_iff.mp hready
  obtain ⟨written, _, rfl, hwritten⟩ := Task.runs_ask_bind_iff.mp hnow
  obtain ⟨_, _, _, hfails, -⟩ | ⟨_, hgranted, hdone⟩ := Task.runs_ofExcept_bind_iff.mp hwritten
  · cases hfails
  obtain ⟨rfl, hpath, -⟩ := Task.runs_pure_iff.mp hdone
  have hok : written = .ok () := by
    cases written with
    | ok a => rfl
    | error reason => cases hgranted
  subst hok
  exact ⟨⟨report, now⟩, rfl, (Except.ok.inj hpath).symm, List.sublist_cons_self _ _⟩

/-- **The reports of a run:** there is one for each suite that ran, in the order of the suite files,
at the path that the run gives for it, and the run has written it. -/
structure Filed (r : RunSetup) (results : List FileResult) (filings : List Filing) (log : Log) :
    Prop where
  reports : results.filterMap FileResult.filed? = filings.map fun f => (f.report, f.path r)
  asked : (filings.flatMap (Filing.asked r)).Sublist log

/-- If each report was written in its part of a run, all are in the run. -/
theorem filed_of_parts {tree : FileTree} {paths : List String} {parts : List (Log × FileResult)}
    (h : List.Forall₂ (fun path part => ComesOf r tree path part.2 ∧ FiledIn r part.2 part.1)
      paths parts) :
    ∃ filings, Filed r (parts.map Prod.snd) filings (parts.map Prod.fst).flatten := by
  induction h with
  | nil => exact ⟨[], rfl, List.Sublist.refl _⟩
  | @cons _ part _ rest hpart _ ih =>
    obtain ⟨first, x⟩ := part
    obtain ⟨-, hfirst⟩ := hpart
    obtain ⟨filings, hreports, hasked⟩ := ih
    cases hfiled : x.filed? with
    | none =>
      -- no report, and nothing to find in this part of the run
      refine ⟨filings, ?_, hasked.trans (List.sublist_append_right _ _)⟩
      rw [List.map_cons, List.filterMap_cons_none hfiled, hreports]
    | some filed =>
      obtain ⟨report, path⟩ := filed
      obtain ⟨m, written, m', hwritten, hruns⟩ := hfirst report path hfiled
      obtain ⟨f, rfl, rfl, hf⟩ := asked_of_writeReport hruns
      refine ⟨f :: filings, ?_, (hf.trans hwritten).append hasked⟩
      rw [List.map_cons, List.filterMap_cons_some hfiled, hreports]
      rfl

/-- A run of all suites asks for the files, and then takes them up one after another. -/
theorem runs_runAll_iff {o : RunOutcome} :
    (runAll r).Runs s log (.ok o) s' ↔ ∃ tree rest paths es,
      log = ⟨.files r.settings.suitesDir, tree⟩ :: rest ∧
      SuiteFile.discover tree r.settings.suitesDir = .ok paths ∧
      (endings r tree paths).Runs s rest (.ok es) s' ∧ o = .ofEndings es := by
  unfold runAll
  constructor
  · intro h
    obtain ⟨tree, rest, rfl, hfiles⟩ := Task.runs_ask_bind_iff.mp h
    obtain ⟨_, _, _, hfails, -⟩ | ⟨paths, hpaths, hruns⟩ := Task.runs_ofExcept_bind_iff.mp hfiles
    · cases hfails
    obtain ⟨_, hfails, -⟩ | ⟨_, _, es, _, rfl, hendings, hpure⟩ := (Task.runs_bind_iff _ _).mp hruns
    · cases hfails
    obtain ⟨rfl, ho, rfl⟩ := Task.runs_pure_iff.mp hpure
    cases ho
    rw [List.append_nil]
    exact ⟨tree, _, paths, es, rfl, hpaths, hendings, rfl⟩
  · rintro ⟨tree, rest, paths, es, rfl, hpaths, hendings, rfl⟩
    refine Task.runs_ask_bind_iff.mpr ⟨tree, rest, rfl, ?_⟩
    refine Task.runs_ofExcept_bind_iff.mpr (.inr ⟨paths, hpaths, ?_⟩)
    refine (Task.runs_bind_iff _ _).mpr
      (.inr ⟨rest, [], es, s', (List.append_nil _).symm, hendings, ?_⟩)
    exact Task.runs_pure_iff.mpr ⟨rfl, rfl, rfl⟩

/-- **A run of all suites files one report for each suite that ran.** -/
theorem runAll_filed {o : RunOutcome} (h : (runAll r).Runs s log (.ok o) s') :
    ∃ tree paths results filings, ⟨.files r.settings.suitesDir, tree⟩ ∈ log ∧
      SuiteFile.discover tree r.settings.suitesDir = .ok paths ∧
      List.Forall₂ (ComesOf r tree) paths results ∧ o = FileResult.outcome results ∧
      Filed r results filings log := by
  obtain ⟨tree, rest, paths, es, rfl, hpaths, hendings, rfl⟩ := runs_runAll_iff.mp h
  obtain ⟨parts, hends, rfl, hparts⟩ := endings_each
    (P := fun path log x => ComesOf r tree path x ∧ FiledIn r x log) runPath_result
    (fun hruns => ⟨.broken hruns, fun _ _ hnone => by cases hnone⟩) paths hendings
  cases hends
  obtain ⟨filings, hfiled⟩ := filed_of_parts hparts
  refine ⟨tree, paths, parts.map Prod.snd, filings, List.mem_cons_self, hpaths,
    List.forall₂_map_right_iff.mpr (hparts.imp fun _ _ hpart => hpart.1), ?_, hfiled.reports,
    hfiled.asked.cons _⟩
  unfold FileResult.outcome
  rw [List.map_map]
  rfl

namespace Filed

variable {results : List FileResult} {filings : List Filing}

/-- The outcome of a run has the paths of its reports. -/
theorem reports_perm (h : Filed r results filings log) :
    (FileResult.outcome results).reports.Perm (filings.map (Filing.path r)) := by
  have hreport : FileResult.report? = fun x => x.filed?.map Prod.snd := by
    funext x
    cases x <;> rfl
  have hpaths : results.filterMap FileResult.report? = filings.map (Filing.path r) := by
    rw [hreport, ← List.map_filterMap, h.reports]
    simp only [List.map_map, Function.comp_def]
  rw [FileResult.outcome_reports, hpaths]
  exact List.mergeSort_perm _ _

/-- The time of each report was read from the clock. -/
theorem mem_clock (h : Filed r results filings log) {f : Filing} (hf : f ∈ filings) :
    ⟨.clock, f.time⟩ ∈ log :=
  h.asked.subset (List.mem_flatMap.mpr ⟨f, hf, List.mem_cons_self⟩)

end Filed

/-- **WHEN THE REPORTS OF A RUN ARE KEPT APART.**  In a run of all suites there is one report for
each suite that ran, and the outcome has its path.  If the clock never reads a time before 1970, the
paths are different exactly if no two reports clash; in whatever order suites that run a few at a
time have written them, every file then has the report of its own suite in the end.  Of two
different reports that clash, one is lost in every order. -/
theorem reports_distinct_iff (r : RunSetup) {s s' : Store} {log : Log} {o : RunOutcome}
    (h : (runAll r).Runs s log (.ok o) s') (hclock : ∀ t : Int, ⟨.clock, t⟩ ∈ log → 0 ≤ t) :
    ∃ tree paths results filings, ⟨.files r.settings.suitesDir, tree⟩ ∈ log ∧
      SuiteFile.discover tree r.settings.suitesDir = .ok paths ∧
      List.Forall₂ (ComesOf r tree) paths results ∧ o = FileResult.outcome results ∧
      Filed r results filings log ∧ o.reports.Perm (filings.map (Filing.path r)) ∧
      (o.reports.Nodup ↔ filings.Pairwise fun f g => ¬ f.Clashes g) ∧
      ∀ order, order.Perm filings →
        (o.reports.Nodup → ∀ f ∈ order, Filing.textAt r (f.path r) order = some f.text) ∧
        ∀ f ∈ order, ∀ g ∈ order, f.Clashes g → f.text ≠ g.text →
          Filing.textAt r (f.path r) order ≠ some f.text ∨
          Filing.textAt r (g.path r) order ≠ some g.text := by
  obtain ⟨tree, paths, results, filings, hfiles, hpaths, hresults, rfl, hfiled⟩ := runAll_filed h
  have hperm := hfiled.reports_perm
  have htime : ∀ f ∈ filings, 0 ≤ f.time := fun f hf => hclock _ (hfiled.mem_clock hf)
  refine ⟨tree, paths, results, filings, hfiles, hpaths, hresults, rfl, hfiled, hperm, ?_, ?_⟩
  · -- the order of the paths does not matter, so it may be that of the suite files
    rw [hperm.nodup_iff]
    show List.Pairwise _ _ ↔ _
    rw [List.pairwise_map]
    refine List.Pairwise.iff_of_mem fun {f g} hf hg => ?_
    exact not_congr (Filing.path_eq_iff r (htime f hf) (htime g hg))
  · intro order horder
    constructor
    · intro hnodup
      exact Filing.kept_of_nodup ((hperm.trans (horder.map _).symm).nodup_iff.mp hnodup)
    · intro f hf g hg hclash hdifferent
      have hpath : f.path r = g.path r := (Filing.path_eq_iff r (htime f (horder.subset hf))
        (htime g (horder.subset hg))).mpr hclash
      exact Filing.lost_of_shared hpath hdifferent order

/-- The document of a suite with a name. -/
def suiteText (name : String) : String :=
  "\x7b\"suiteName\":\"" ++ name
    ++ "\",\"type\":\"UI\",\"testCases\":[\x7b\"name\":\"c\",\"type\":\"UI\"\x7d]\x7d"

/-- Two suites with names. -/
def twoSuites (first second : String) : FileTree :=
  ⟨[(["test-suites", "first.json"], .text (suiteText first)),
    (["test-suites", "second.json"], .text (suiteText second))]⟩

theorem discover_twoSuites (first second : String) :
    SuiteFile.discover (twoSuites first second) "test-suites"
      = .ok ["test-suites/first.json", "test-suites/second.json"] := by
  have hnames : Path.names "test-suites" = ["test-suites"] := by decide +kernel
  have hstep : Path.step [] "test-suites" = ["test-suites"] := by decide +kernel
  have hplace : (twoSuites first second).placeOf "test-suites" = .ok ["test-suites"] := by
    unfold FileTree.placeOf
    rw [if_neg (by decide +kernel), if_neg (by decide +kernel), hnames]
    show (twoSuites first second).walk (Path.step [] "test-suites") [] = _
    rw [hstep]
    rfl
  have hdirectory : (twoSuites first second).isDirectory "test-suites" = true := by
    unfold FileTree.isDirectory
    rw [hplace]
    simp [FileTree.isDirectoryAt, FileTree.at?, FileTree.isGiven, twoSuites,
      List.lookup_cons]
  have hbelow : (twoSuites first second).filesBelow ["test-suites"]
      = [["first.json"], ["second.json"]] := by
    show List.mergeSort [["first.json"], ["second.json"]] FileTree.placeLe = _
    exact List.mergeSort_of_pairwise (by decide)
  unfold SuiteFile.discover
  rw [hdirectory, hplace]
  show Except.ok (((FileTree.filesBelow _ _).filter _).map _) = _
  rw [hbelow]
  exact congrArg Except.ok (by decide +kernel)

/-- What comes of the two while time stands still. -/
def twoPlayed (first second : String) : (Except Failure (List SuiteEnding) × Store) × Log :=
  Task.play (idle default) (endings {} (twoSuites first second)
    ["test-suites/first.json", "test-suites/second.json"]) default []

/-- The paths of their reports, in the order of the suites. -/
def twoReports (first second : String) : Option (List String) :=
  (twoPlayed first second).1.1.toOption.map fun es => (es.foldl RunOutcome.add {}).reports

/-- What is asked in a run of the two. -/
def twoLog (first second : String) : Log :=
  ⟨.files "test-suites", twoSuites first second⟩ :: (twoPlayed first second).2

/-- If what comes of two suites can be played, so can a run of both. -/
theorem exists_run_of_two {first second : String} {reports : List String}
    (hends : twoReports first second = some reports)
    (hsorted : reports.Pairwise fun a b => decide (a ≤ b) = true) :
    ∃ o s', (runAll {}).Runs default (twoLog first second) (.ok o) s' ∧ o.reports = reports := by
  have hruns := Task.runs_play (idle default) (endings {} (twoSuites first second)
    ["test-suites/first.json", "test-suites/second.json"]) default
  obtain ⟨es, hes, hreports⟩ := Option.map_eq_some_iff.mp hends
  have hok : (twoPlayed first second).1.1 = .ok es := eq_ok_of_toOption hes
  unfold twoPlayed at hok
  rw [hok] at hruns
  refine ⟨.ofEndings es, _, runs_runAll_iff.mpr
    ⟨_, _, _, es, rfl, discover_twoSuites first second, hruns, rfl⟩, ?_⟩
  show (es.foldl RunOutcome.add {}).reports.mergeSort _ = reports
  rw [hreports]
  exact List.mergeSort_of_pairwise hsorted

/-- Whether the clock, when it was read, was not before 1970. -/
def isSinceEpoch : Event outside → Bool
  | ⟨.clock, t⟩ => decide ((0 : Int) ≤ t)
  | _ => true

theorem since_epoch_of_all {log : Log} (h : log.all isSinceEpoch = true) (t : Int)
    (ht : ⟨.clock, t⟩ ∈ log) : 0 ≤ t :=
  of_decide_eq_true (List.all_eq_true.mp h _ ht)

/-- The texts that were written, with their paths. -/
def writes (log : Log) : List (String × String) :=
  log.filterMap fun e =>
    match e with
    | ⟨.writeText path text, _⟩ => some (path, text)
    | _ => none

/-- Two suites whose names look different end in one millisecond, and both reports are kept. -/
theorem reports_distinct_apart :
    ∃ o s' log, (runAll {}).Runs default log (.ok o) s' ∧
      ⟨.files "test-suites", twoSuites "a-b" "a b"⟩ ∈ log ∧
      o.reports = ["test-results/a-b-19700101T000000000.json",
        "test-results/a_b-19700101T000000000.json"] ∧
      ∃ filings : List Filing, o.reports.Perm (filings.map (Filing.path {})) ∧
        ∀ f ∈ filings, Filing.textAt {} (f.path {}) filings = some f.text := by
  have hplayed : twoReports "a-b" "a b" = some ["test-results/a-b-19700101T000000000.json",
        "test-results/a_b-19700101T000000000.json"] ∧
      (twoLog "a-b" "a b").all isSinceEpoch = true := by decide +kernel
  obtain ⟨hends, hclock⟩ := hplayed
  obtain ⟨o, s', hruns, hreports⟩ := exists_run_of_two hends (by decide +kernel)
  obtain ⟨-, -, -, filings, -, -, -, -, -, hperm, -, hkept⟩ :=
    reports_distinct_iff {} hruns (since_epoch_of_all hclock)
  have hnodup : o.reports.Nodup := by
    rw [hreports]
    decide +kernel
  exact ⟨o, s', _, hruns, List.mem_cons_self, hreports, filings, hperm,
    (hkept filings (List.Perm.refl _)).1 hnodup⟩

/-- **A report that is overwritten.**  The names of two suites look the same, both end in one
millisecond, and the run says nothing of it: it gives one path twice, to which it has written two
different texts. -/
theorem report_overwritten :
    ∃ o s' log, (runAll {}).Runs default log (.ok o) s' ∧
      ⟨.files "test-suites", twoSuites "a b" "a_b"⟩ ∈ log ∧
      (∀ t : Int, ⟨.clock, t⟩ ∈ log → 0 ≤ t) ∧
      o.reports = ["test-results/a_b-19700101T000000000.json",
        "test-results/a_b-19700101T000000000.json"] ∧
      (writes log).map Prod.fst = o.reports ∧ (writes log).Nodup := by
  have hplayed : twoReports "a b" "a_b" = some ["test-results/a_b-19700101T000000000.json",
        "test-results/a_b-19700101T000000000.json"] ∧
      (twoLog "a b" "a_b").all isSinceEpoch = true ∧
      (writes (twoLog "a b" "a_b")).map Prod.fst = ["test-results/a_b-19700101T000000000.json",
        "test-results/a_b-19700101T000000000.json"] ∧
      (writes (twoLog "a b" "a_b")).Nodup := by decide +kernel
  obtain ⟨hends, hclock, hwrites, hdifferent⟩ := hplayed
  obtain ⟨o, s', hruns, hreports⟩ := exists_run_of_two hends (by decide +kernel)
  exact ⟨o, s', _, hruns, List.mem_cons_self, since_epoch_of_all hclock, hreports,
    hwrites.trans hreports.symm, hdifferent⟩

end Run

end SuiteRunner

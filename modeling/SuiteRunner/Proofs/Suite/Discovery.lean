import SuiteRunner.Proofs.Files.Trees
import SuiteRunner.Proofs.Outside.Results
import SuiteRunner.Suite.File

/-!
  SuiteRunner.Proofs.Suite.Discovery
  ────────────────────────────────
  **WHICH SUITE A LOOK-UP FINDS.**

  Suite files are the files below a directory with the extension `json`.  A look-up goes through
  them in the order of the names in their paths, and takes the first one that holds a suite with a
  test case which has the id or the name that is asked for:

    • `discover_eq` — the suite files are there once each, in order,
    • `open_below_eq_ok_iff` — when a suite file loads,
    • `find_eq_ok_iff` — a look-up finds the first file that loads and is meant,
    • `first_meant_found` — **so nothing else below the directory has any say in it.**
-/

namespace SuiteRunner

/-- A suite is meant by an id or a name if it has that id or that name, and it is not empty. -/
def Suite.Meant (s : Suite) (id name : String) : Prop :=
  s.id ≠ "" ∧ s.id = id ∨ s.name ≠ "" ∧ s.name = name

/-- The test that is run says what is meant by an id or a name. -/
theorem Suite.isIdentifiedBy_iff {s : Suite} {id name : String} :
    s.isIdentifiedBy id name = true ↔ s.Meant id name := by
  unfold Suite.isIdentifiedBy identifiedBy Suite.Meant
  simp

namespace SuiteFile

variable {t : FileTree} {place : List String} {dir : String}

/-! ## §1. Suite files. -/

/-- The last name has the extension `json`, and something before it. -/
def IsJson (names : List String) : Prop :=
  ∃ above stem, names = above ++ [stem ++ ".json"] ∧ stem ≠ ""

/-- A file is known by the extension of its last name. -/
theorem isJson_iff {names : List String} :
    (names.getLast?.bind Path.nameExtension? == some "json") = true ↔ IsJson names := by
  have hdot : '.' ∉ "json".toList := by decide
  rw [beq_iff_eq, Option.bind_eq_some_iff]
  constructor
  · rintro ⟨last, hlast, hextension⟩
    obtain ⟨above, rfl⟩ := List.getLast?_eq_some_iff.mp hlast
    obtain ⟨stem, rfl, hstem, -⟩ := Path.nameExtension?_eq_some_iff.mp hextension
    exact ⟨above, stem, by rw [String.append_assoc]; rfl, hstem⟩
  · rintro ⟨above, stem, rfl, hstem⟩
    refine ⟨stem ++ ".json", List.getLast?_concat, ?_⟩
    exact Path.nameExtension?_eq_some_iff.mpr
      ⟨stem, by rw [String.append_assoc]; rfl, hstem, hdot⟩

/-- A suite file is at some names below a place. -/
def IsSuiteFile (t : FileTree) (place names : List String) : Prop :=
  IsJson names ∧ t.IsFile (place ++ names)

/-- The names of the suite files below a place. -/
def suiteFiles (t : FileTree) (place : List String) : List (List String) :=
  (t.filesBelow place).filter fun names =>
    names.getLast?.bind Path.nameExtension? == some "json"

/-- A file with an extension has a name. -/
theorem IsJson.ne_nil {names : List String} (h : IsJson names) : names ≠ [] := by
  obtain ⟨above, stem, rfl, -⟩ := h
  exact List.concat_ne_nil _ _

/-- **What is discovered** is one path for each suite file, in the order of the places. -/
theorem discover_eq (hdir : t.placeOf dir = .ok place) (hdirectory : t.isDirectoryAt place = true) :
    discover t dir = .ok ((suiteFiles t place).map (Path.below dir)) := by
  have his : t.isDirectory dir = true := by
    unfold FileTree.isDirectory
    rw [hdir]
    exact hdirectory
  unfold discover
  rw [his, hdir]
  rfl

/-! ## §2. Loading. -/

/-- A suite is read from a text if the document is one and it has cases. -/
theorem ofText_eq_ok_iff {text : String} {s : Suite} :
    ofText text = .ok s ↔ Decode.ofText Suite.decode text = .ok s ∧ s.cases ≠ [] := by
  unfold ofText
  cases Decode.ofText Suite.decode text with
  | error e => simp
  | ok s' =>
    show (if s'.cases.isEmpty = true then Except.error _ else .ok s') = .ok s ↔ _
    rw [Except.ok.injEq]
    by_cases hempty : s'.cases.isEmpty = true
    · rw [if_pos hempty]
      refine iff_of_false (fun hok => by cases hok) ?_
      rintro ⟨rfl, hne⟩
      exact hne (List.isEmpty_iff.mp hempty)
    · rw [if_neg hempty, Except.ok.injEq]
      exact ⟨fun heq => ⟨heq, heq ▸ mt List.isEmpty_iff.mpr hempty⟩, And.left⟩

/-- A file is opened as a suite if it is read and its text is a suite; its path is the one that was
asked for. -/
theorem open_eq_ok_iff {path : String} {f : SuiteFile} :
    open_ t path = .ok f ↔
      ∃ text, t.read path = .ok text ∧ ofText text = .ok f.suite ∧ f.path = path := by
  unfold open_
  cases t.read path with
  | error e => simp
  | ok text =>
    obtain ⟨fpath, fsuite⟩ := f
    cases hsuite : ofText text with
    | error e => simp [hsuite]
    | ok s => simp [hsuite, and_comm, eq_comm]

/-- The empty text is no suite. -/
theorem ofText_empty (s : Suite) : ofText "" ≠ .ok s := by
  have hempty : (ofText "").toOption.isSome = false := by decide
  intro hok
  rw [hok] at hempty
  cases hempty

/-- A suite file below a place loads: its text is that of a suite with a test case. -/
structure Loads (t : FileTree) (place names : List String) (s : Suite) : Prop where
  json : IsJson names
  text : ∃ text, t.at? (place ++ names) = some (.text text) ∧
    Decode.ofText Suite.decode text = .ok s
  cases : s.cases ≠ []

/-- A place from which a suite is read is a suite file. -/
theorem Loads.isSuiteFile {names : List String} {s : Suite} (h : Loads t place names s) :
    IsSuiteFile t place names := by
  obtain ⟨text, hat, -⟩ := h.text
  exact ⟨h.json, .text text, hat, FileEntry.noConfusion⟩

section Tree

variable (h : t.ProperBelow place)
include h

/-- **The suite files** are the files below the place with the extension of documents. -/
theorem mem_suiteFiles {names : List String} :
    names ∈ suiteFiles t place ↔ IsSuiteFile t place names := by
  unfold suiteFiles IsSuiteFile
  rw [List.mem_filter, h.mem_filesBelow, isJson_iff]
  exact ⟨fun hnames => ⟨hnames.2, hnames.1.2⟩, fun hnames => ⟨⟨hnames.1.ne_nil, hnames.2⟩, hnames.1⟩⟩

/-- Suite files are in the order of their places, each of them once. -/
theorem sorted_suiteFiles : (suiteFiles t place).Pairwise (· < ·) :=
  h.sorted_filesBelow.filter _

/-- **When a suite file loads.** -/
theorem open_below_eq_ok_iff (hdir : t.placeOf dir = .ok place) {names : List String}
    (hnames : IsSuiteFile t place names) {f : SuiteFile} :
    open_ t (Path.below dir names) = .ok f ↔
      f.path = Path.below dir names ∧ Loads t place names f.suite := by
  obtain ⟨hjson, e, hat, hfile⟩ := hnames
  have hopen : open_ t (Path.below dir names) = .ok f ↔
      f.path = Path.below dir names ∧ ofText e.content = .ok f.suite := by
    rw [open_eq_ok_iff, h.read_below hdir hjson.ne_nil hat hfile]
    constructor
    · rintro ⟨_, hread, hsuite, hpath⟩
      cases hread
      exact ⟨hpath, hsuite⟩
    · rintro ⟨hpath, hsuite⟩
      exact ⟨_, rfl, hsuite, hpath⟩
  -- a registry is read as the empty text, and that is no suite
  rw [hopen]
  refine and_congr_right fun _ => ?_
  cases e with
  | directory => exact absurd rfl hfile
  | text content =>
    rw [FileEntry.content, ofText_eq_ok_iff]
    constructor
    · rintro ⟨hdecode, hcases⟩
      exact ⟨hjson, ⟨content, hat, hdecode⟩, hcases⟩
    · rintro ⟨-, ⟨text, htext, hdecode⟩, hcases⟩
      rw [hat] at htext
      cases htext
      exact ⟨hdecode, hcases⟩
  | registry content =>
    refine iff_of_false (ofText_empty _) ?_
    rintro ⟨-, ⟨text, htext, -⟩, -⟩
    rw [hat] at htext
    cases htext

end Tree

/-! ## §3. Looking up. -/

/-- The suite of a file, if it loads and is meant. -/
def meant? (t : FileTree) (id name path : String) : Option SuiteFile :=
  match open_ t path with
  | .ok f => if f.suite.isIdentifiedBy id name then some f else none
  | .error _ => none

/-- A file is taken if it opens as a suite and that suite is meant. -/
theorem meant?_eq_some_iff {id name path : String} {f : SuiteFile} :
    meant? t id name path = some f ↔ open_ t path = .ok f ∧ f.suite.Meant id name := by
  unfold meant?
  rw [← Suite.isIdentifiedBy_iff]
  cases open_ t path with
  | error e => simp
  | ok f' =>
    show (if f'.suite.isIdentifiedBy id name = true then some f' else none) = some f ↔ _
    rw [Option.ite_none_right_eq_some, Option.some.injEq, Except.ok.injEq]
    constructor
    · rintro ⟨hmeant, rfl⟩
      exact ⟨rfl, hmeant⟩
    · rintro ⟨rfl, hmeant⟩
      exact ⟨hmeant, rfl⟩

/-- Of paths the first one that is taken is found, and without one the failure names what was
sought. -/
theorem findIn_eq (id name : String) (paths : List String) :
    findIn t id name paths
      = match paths.findSome? (meant? t id name) with
        | some f => .ok f
        | none => .error (.suiteNotFound (id ++ ":" ++ name)) := by
  induction paths with
  | nil => rfl
  | cons path rest ih =>
    unfold findIn
    rw [List.findSome?_cons, ih]
    unfold meant?
    cases open_ t path with
    | error e => rfl
    | ok f =>
      cases hmeant : f.suite.isIdentifiedBy id name with
      | true => simp [hmeant]
      | false => simp [hmeant]

/-- **Look-up goes through the suite files in order** and takes the first that is meant. -/
theorem find_eq (hdir : t.placeOf dir = .ok place) (hdirectory : t.isDirectoryAt place = true)
    (id name : String) :
    find t dir id name
      = match (suiteFiles t place).findSome? (meant? t id name ∘ Path.below dir) with
        | some f => .ok f
        | none => .error (.suiteNotFound (id ++ ":" ++ name)) := by
  unfold find
  rw [discover_eq hdir hdirectory, ← List.findSome?_map]
  exact findIn_eq id name _

/-- In a sorted list the first element with a result is the least one. -/
theorem findSome?_sorted {β : Type} {l : List (List String)} (hl : l.Pairwise (· < ·))
    {g : List String → Option β} {b : β} :
    l.findSome? g = some b ↔
      ∃ a ∈ l, g a = some b ∧ ∀ a' ∈ l, (g a').isSome → ¬ a' < a := by
  rw [List.findSome?_eq_some_iff]
  -- what comes before an element in the list is what is less
  constructor
  · rintro ⟨before, a, after, rfl, ha, hbefore⟩
    obtain ⟨-, hafter, -⟩ := List.pairwise_append.mp hl
    refine ⟨a, List.mem_append_right before List.mem_cons_self, ha, fun a' ha' hsome hlt => ?_⟩
    obtain hmem | hmem := List.mem_append.mp ha'
    · rw [hbefore a' hmem] at hsome
      cases hsome
    · obtain rfl | hmem := List.mem_cons.mp hmem
      · exact List.lt_irrefl a' hlt
      · exact List.lt_asymm hlt (List.rel_of_pairwise_cons hafter hmem)
  · rintro ⟨a, ha, hsome, hleast⟩
    obtain ⟨before, after, rfl⟩ := List.append_of_mem ha
    refine ⟨before, a, after, rfl, hsome, fun a' ha' => ?_⟩
    have hlt : a' < a := (List.pairwise_append.mp hl).2.2 a' ha' a List.mem_cons_self
    have hnone := mt (hleast a' (List.mem_append_left _ ha')) (not_not_intro hlt)
    exact Option.not_isSome_iff_eq_none.mp hnone

/-- A suite file below a place loads, and its suite is meant. -/
structure Qualifies (t : FileTree) (place : List String) (id name : String)
    (names : List String) (s : Suite) : Prop where
  loads : Loads t place names s
  meant : s.Meant id name

section Tree

variable (h : t.ProperBelow place) (hdir : t.placeOf dir = .ok place)
include h hdir

/-- A suite file is taken if it qualifies, and is then known by its path below the directory. -/
theorem meant?_below_eq_some_iff {id name : String} {names : List String}
    (hnames : names ∈ suiteFiles t place) {f : SuiteFile} :
    meant? t id name (Path.below dir names) = some f ↔
      f.path = Path.below dir names ∧ Qualifies t place id name names f.suite := by
  rw [meant?_eq_some_iff, open_below_eq_ok_iff h hdir ((mem_suiteFiles h).mp hnames)]
  constructor
  · rintro ⟨⟨hpath, hloads⟩, hmeant⟩
    exact ⟨hpath, hloads, hmeant⟩
  · rintro ⟨hpath, hloads, hmeant⟩
    exact ⟨⟨hpath, hloads⟩, hmeant⟩

/-- The first of the suite files that qualifies is the one with the least names. -/
theorem firstMeant_eq_some_iff {id name : String} {f : SuiteFile} :
    (suiteFiles t place).findSome? (meant? t id name ∘ Path.below dir) = some f ↔
      ∃ names, f.path = Path.below dir names ∧ Qualifies t place id name names f.suite ∧
        ∀ names' s', Qualifies t place id name names' s' → ¬ names' < names := by
  rw [findSome?_sorted (sorted_suiteFiles h)]
  constructor
  · rintro ⟨names, hmem, hsome, hleast⟩
    obtain ⟨hpath, hqualifies⟩ := (meant?_below_eq_some_iff h hdir hmem).mp hsome
    refine ⟨names, hpath, hqualifies, fun names' s' hq => ?_⟩
    have hmem' := (mem_suiteFiles h).mpr hq.loads.isSuiteFile
    exact hleast names' hmem' (Option.isSome_iff_exists.mpr
      ⟨⟨_, s'⟩, (meant?_below_eq_some_iff h hdir hmem').mpr ⟨rfl, hq⟩⟩)
  · rintro ⟨names, hpath, hqualifies, hleast⟩
    have hmem := (mem_suiteFiles h).mpr hqualifies.loads.isSuiteFile
    refine ⟨names, hmem, (meant?_below_eq_some_iff h hdir hmem).mpr ⟨hpath, hqualifies⟩, ?_⟩
    intro names' hmem' hsome
    obtain ⟨f', hf'⟩ := Option.isSome_iff_exists.mp hsome
    exact hleast names' f'.suite ((meant?_below_eq_some_iff h hdir hmem').mp hf').2

/-- None is taken exactly if none qualifies. -/
theorem firstMeant_eq_none_iff {id name : String} :
    (suiteFiles t place).findSome? (meant? t id name ∘ Path.below dir) = none ↔
      ∀ names s, ¬ Qualifies t place id name names s := by
  rw [List.findSome?_eq_none_iff]
  constructor
  · intro hnone names s hq
    have hmem := (mem_suiteFiles h).mpr hq.loads.isSuiteFile
    have hsome : meant? t id name (Path.below dir names) = some ⟨_, s⟩ :=
      (meant?_below_eq_some_iff h hdir hmem).mpr ⟨rfl, hq⟩
    have hnames := hnone names hmem
    rw [Function.comp_apply, hsome] at hnames
    cases hnames
  · intro hnone names hmem
    cases hsome : meant? t id name (Path.below dir names) with
    | none => exact hsome
    | some f => exact absurd ((meant?_below_eq_some_iff h hdir hmem).mp hsome).2 (hnone names _)

variable (hdirectory : t.isDirectoryAt place = true)
include hdirectory

/-- **A look-up finds the first file that loads and is meant.** -/
theorem find_eq_ok_iff {id name : String} {f : SuiteFile} :
    find t dir id name = .ok f ↔
      ∃ names, f.path = Path.below dir names ∧ Qualifies t place id name names f.suite ∧
        ∀ names' s', Qualifies t place id name names' s' → ¬ names' < names := by
  rw [← firstMeant_eq_some_iff h hdir, find_eq hdir hdirectory]
  cases (suiteFiles t place).findSome? (meant? t id name ∘ Path.below dir) with
  | none => simp
  | some f' => simp

/-- A look-up fails when no file qualifies, and says for what it looked. -/
theorem find_eq_error_iff {id name : String} {e : Failure} :
    find t dir id name = .error e ↔
      e = .suiteNotFound (id ++ ":" ++ name) ∧ ∀ names s, ¬ Qualifies t place id name names s := by
  rw [← firstMeant_eq_none_iff h hdir, find_eq hdir hdirectory]
  cases (suiteFiles t place).findSome? (meant? t id name ∘ Path.below dir) with
  | none => simp [eq_comm]
  | some f' => simp

/-- **What is discovered:** every suite file once, in the order of the names in its path. -/
theorem discovered :
    ∃ paths, discover t dir = .ok paths ∧
      paths.Pairwise (fun a b => Path.names a < Path.names b) ∧
      ∀ path, path ∈ paths ↔ ∃ names, path = Path.below dir names ∧ IsSuiteFile t place names := by
  refine ⟨_, discover_eq hdir hdirectory, ?_, fun path => ?_⟩
  · have hne := FileTree.ne_empty_of_placeOf hdir
    have hnames : ∀ names ∈ suiteFiles t place,
        Path.names (Path.below dir names) = Path.names dir ++ names := fun names hmem =>
      Path.names_below hne (h.named_of_isFile ((mem_suiteFiles h).mp hmem).2)
    refine List.pairwise_map.mpr ((sorted_suiteFiles h).imp_of_mem fun {a b} ha hb hlt => ?_)
    rw [hnames a ha, hnames b hb]
    exact List.append_left_lt hlt
  · rw [List.mem_map]
    constructor
    · rintro ⟨names, hmem, rfl⟩
      exact ⟨names, rfl, (mem_suiteFiles h).mp hmem⟩
    · rintro ⟨names, rfl, hsuite⟩
      exact ⟨names, (mem_suiteFiles h).mpr hsuite, rfl⟩

end Tree

/-- **THE FIRST SUITE THAT IS MEANT IS FOUND.**  Below a directory every file with the extension
`json` is listed, once, and in the order of the names in the paths; nothing else is.  A look-up
gives the suite of the first of them that loads and has the id or the name, and fails if none does.
In another tree in which the same files qualify it gives the same, whatever else is there. -/
theorem first_meant_found (h : t.ProperBelow place) (hdir : t.placeOf dir = .ok place)
    (hdirectory : t.isDirectoryAt place = true) :
    (∃ paths, discover t dir = .ok paths ∧
      paths.Pairwise (fun a b => Path.names a < Path.names b) ∧
      ∀ path, path ∈ paths ↔
        ∃ names, path = Path.below dir names ∧ IsJson names ∧ t.IsFile (place ++ names)) ∧
    ∀ id name,
      (∀ f, find t dir id name = .ok f ↔
        ∃ names, f.path = Path.below dir names ∧ Qualifies t place id name names f.suite ∧
          ∀ names' s', Qualifies t place id name names' s' → ¬ names' < names) ∧
      (∀ e, find t dir id name = .error e ↔
        e = .suiteNotFound (id ++ ":" ++ name) ∧
          ∀ names s, ¬ Qualifies t place id name names s) ∧
      ∀ t' : FileTree, t'.ProperBelow place → t'.placeOf dir = .ok place →
        t'.isDirectoryAt place = true →
        (∀ names s, Qualifies t' place id name names s ↔ Qualifies t place id name names s) →
        find t' dir id name = find t dir id name := by
  refine ⟨discovered h hdir hdirectory, fun id name => ⟨fun f => find_eq_ok_iff h hdir hdirectory,
    fun e => find_eq_error_iff h hdir hdirectory, ?_⟩⟩
  intro t' h' hdir' hdirectory' hsame
  -- either answer is told by what qualifies alone
  cases hfound : find t dir id name with
  | ok f =>
    obtain ⟨names, hpath, hqualifies, hleast⟩ := (find_eq_ok_iff h hdir hdirectory).mp hfound
    exact (find_eq_ok_iff h' hdir' hdirectory').mpr
      ⟨names, hpath, (hsame _ _).mpr hqualifies, fun n s hq => hleast n s ((hsame n s).mp hq)⟩
  | error e =>
    obtain ⟨he, hnone⟩ := (find_eq_error_iff h hdir hdirectory).mp hfound
    exact (find_eq_error_iff h' hdir' hdirectory').mpr
      ⟨he, fun names s hq => hnone names s ((hsame names s).mp hq)⟩

/-- A suite with a name, as a text. -/
def named (name : String) : String :=
  "\x7b\"suiteName\":\"" ++ name
    ++ "\",\"type\":\"UI\",\"testCases\":[\x7b\"name\":\"c\",\"type\":\"UI\"\x7d]\x7d"

/-- Two suites of one name, among other files; the path of the first comes second as a text. -/
def folders : FileTree :=
  ⟨[(["suites", "a.json"], .text (named "Shop")),
    (["suites", "a", "b.json"], .text (named "Shop")),
    (["suites", "a", "a.json"], .text "\x7b"),
    (["suites", ".json"], .text (named "Shop")),
    (["suites", "A.JSON"], .text (named "Shop")),
    (["suites", "0.json"], .directory)]⟩

theorem first_meant_found_folders :
    folders.ProperBelow ["suites"] ∧ folders.placeOf "suites" = .ok ["suites"] ∧
      folders.isDirectoryAt ["suites"] = true ∧
      (∃ f, find folders "suites" "" "Shop" = .ok f ∧ f.path = "suites/a/b.json") ∧
      "suites/a.json" < "suites/a/b.json" := by
  have htree : folders.ProperBelow ["suites"] := by decide
  have hdir : folders.placeOf "suites" = .ok ["suites"] := eq_ok_of_toOption (by decide)
  have hdirectory : folders.isDirectoryAt ["suites"] = true := by decide
  have hnamed : ((ofText (named "Shop")).toOption.any (·.isIdentifiedBy "" "Shop")) = true := by
    decide +kernel
  obtain ⟨s, hs, hmeant⟩ : ∃ s, (ofText (named "Shop")).toOption = some s ∧
      s.isIdentifiedBy "" "Shop" = true := by
    cases hs : (ofText (named "Shop")).toOption with
    | none => rw [hs] at hnamed; cases hnamed
    | some s => rw [hs] at hnamed; exact ⟨s, rfl, hnamed⟩
  have hqualifies : Qualifies folders ["suites"] "" "Shop" ["a", "b.json"] s := by
    obtain ⟨hdecode, hcases⟩ := ofText_eq_ok_iff.mp (eq_ok_of_toOption hs)
    exact ⟨⟨isJson_iff.mp (by decide +kernel), ⟨_, by decide +kernel, hdecode⟩, hcases⟩,
      Suite.isIdentifiedBy_iff.mp hmeant⟩
  have hpath : "suites/a/b.json" = Path.below "suites" ["a", "b.json"] := by decide
  refine ⟨htree, hdir, hdirectory, ⟨⟨"suites/a/b.json", s⟩, ?_, rfl⟩, by decide⟩
  refine (((first_meant_found htree hdir hdirectory).2 "" "Shop").1 _).mpr
    ⟨["a", "b.json"], hpath, hqualifies, ?_⟩
  rintro names' s' ⟨⟨hjson, ⟨text, hat, hdecode⟩, -⟩, -⟩ hlt
  -- the one suite file before it does not load
  have hbefore : ∀ x ∈ folders.entries, x.1.drop 1 < ["a", "b.json"] →
      ((x.1.drop 1).getLast?.bind Path.nameExtension? == some "json") = true → x.2 ≠ .directory →
      x.2 = .text "\x7b" := by decide +kernel
  have htext := hbefore _ (FileTree.mem_of_at? hat FileEntry.noConfusion) hlt
    (isJson_iff.mpr hjson) FileEntry.noConfusion
  have hbroken : (Decode.ofText Suite.decode "\x7b").toOption.isSome = false := by decide +kernel
  cases htext
  rw [hdecode] at hbroken
  cases hbroken

end SuiteFile

end SuiteRunner

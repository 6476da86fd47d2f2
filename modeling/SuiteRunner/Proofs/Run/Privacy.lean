import SuiteRunner.Proofs.Json.Documents
import SuiteRunner.Proofs.Outside.Transcript
import SuiteRunner.Proofs.Run.Addressing
import SuiteRunner.Proofs.Ui.Scope

/-!
  SuiteRunner.Proofs.Run.Privacy
  ────────────────────────────────
  **WHOSE LOCAL VARIABLES A TEST CASE SEES.**

  The cases of a suite run one after another on one store.  What a case does with variables is done
  through the scope of its suite's id and its own, so cases with different ids have nothing to do
  with each other's local variables:

    • `exists_parts` — a run of cases is cut into parts, one for each case,
    • `KeepsToScope.untouched`, `KeepsToScope.blind` — what a case leaves alone and does not see,
    • `locals_stay_private` — all of this for a run of a suite.

  Ids need not differ.  Two cases with one id have one owner, and so the local variables of one are
  those of the other: `locals_shared_by_equal_ids`.
-/

namespace SuiteRunner

open Store (SameLocals SameBut)
open SuiteRunner.Task (Keeps InStep NeverFails)

namespace Run

/-! ## §1. The parts of a run. -/

/-- A part of a run: the case, its entries and its questions, and the variables before and after. -/
structure CasePart where
  testCase : TestCase
  entries : List Entry
  log : Log
  before : Store
  after : Store

namespace CasePart

/-- The parts follow one another from one store to another. -/
def Follow : Store → List CasePart → Store → Prop
  | s, [], s' => s' = s
  | s, p :: rest, s' => p.before = s ∧ Follow p.after rest s'

/-- A part is a run of its case. -/
def IsRun (run : TestCase → Task Store (List Entry)) (p : CasePart) : Prop :=
  (run p.testCase).Runs p.before p.log (.ok p.entries) p.after

end CasePart

/-- **A run of cases is cut into parts,** one for each case. -/
theorem exists_parts {run : TestCase → Task Store (List Entry)} (hrun : ∀ c, NeverFails (run c))
    (cases : List TestCase) : ∀ {s s' : Store} {log : Log} {result : Except Failure (List Entry)},
      (inOrder run cases).Runs s log result s' →
      ∃ parts : List CasePart,
        parts.map CasePart.testCase = cases ∧ CasePart.Follow s parts s' ∧
        log = parts.flatMap CasePart.log ∧ result = .ok (parts.flatMap CasePart.entries) ∧
        ∀ p ∈ parts, p.IsRun run := by
  -- for every store: the other cases begin in the one that the first case leaves
  induction cases with
  | nil =>
    intro s s' log result hruns
    obtain ⟨rfl, rfl, rfl⟩ := Task.runs_pure_iff.mp hruns
    exact ⟨[], rfl, rfl, rfl, rfl, fun p hp => absurd hp List.not_mem_nil⟩
  | cons c rest ih =>
    intro s s' log result hruns
    have hrest : NeverFails (inOrder run rest) := by
      intro s log result s' hmore
      obtain ⟨parts, -, -, -, hresult, -⟩ := ih hmore
      exact ⟨_, hresult⟩
    obtain ⟨first, last, es, m, more, rfl, rfl, hcase, hmore⟩ :=
      (Task.runs_both_iff (hrun c) fun _ => hrest).mp hruns
    obtain ⟨parts, hcases, hfollow, rfl, hentries, hall⟩ := ih hmore
    cases hentries
    exact ⟨⟨c, es, first, s, m⟩ :: parts, congrArg (c :: ·) hcases, ⟨rfl, hfollow⟩, rfl, rfl,
      List.forall_mem_cons.mpr ⟨hcase, hall⟩⟩

/-! ## §2. Cases keep to their scopes. -/

/-- The owner of the local variables of a case. -/
def ownerOf (suite : Suite) (c : TestCase) : Owner := ⟨suite.id, c.id⟩

/-- **What a case does with variables is done through the scope of its owner.** -/
def KeepsToScope (r : RunSetup) (f : SuiteFile) (suite : Suite) (c : TestCase) : Prop :=
  match suite.kind with
  | .api => Task.Scoped (ownerOf suite c) (Api.runCase (r.api f) suite c)
  | .ui => Stage.Scoped (ownerOf suite c) (Ui.caseOnStage r.ui suite c)

section

variable {r : RunSetup} {f : SuiteFile} {suite : Suite} {c : TestCase} {o : Owner}

/-- A case of an API suite keeps to its scope, and one of a UI suite if custom code does. -/
theorem keepsToScope (hcustom : suite.kind = .ui → r.custom.Scoped (ownerOf suite c)) :
    KeepsToScope r f suite c := by
  unfold KeepsToScope
  cases hkind : suite.kind with
  | api => exact Api.scoped_runCase _ suite c
  | ui => exact Ui.scoped_caseOnStage (hcustom hkind)

/-- **The local variables of other owners stay as they are.** -/
theorem KeepsToScope.untouched (h : KeepsToScope r f suite c) (ho : o ≠ ownerOf suite c) :
    Keeps (SameLocals o) (caseRun r f suite c) := by
  unfold KeepsToScope at h
  unfold caseRun
  cases hkind : suite.kind with
  | api =>
    rw [hkind] at h
    exact Task.Scoped.untouched h ho
  | ui =>
    rw [hkind] at h
    exact Ui.untouched_runCase h ho

/-- **What other owners have is not seen.** -/
theorem KeepsToScope.blind (h : KeepsToScope r f suite c) (ho : ownerOf suite c ≠ o) :
    InStep (SameBut o) (caseRun r f suite c) := by
  unfold KeepsToScope at h
  unfold caseRun
  cases hkind : suite.kind with
  | api =>
    rw [hkind] at h
    exact Task.Scoped.blind h ho
  | ui =>
    rw [hkind] at h
    exact Ui.blind_runCase h ho

end

/-! ## §3. A run of a suite. -/

/-- What an owner looks up, alone or in texts and documents, is the same in two stores. -/
structure SameLookUps (o : Owner) (s u : Store) : Prop where
  get : ∀ n, (s.get o n).1 = (u.get o n).1
  inject : ∀ text, (s.inject o text).1 = (u.inject o text).1
  injectJson : ∀ v, (Store.injectJson o v s).1 = (Store.injectJson o v u).1

/-- What one owner has is not found by another. -/
theorem sameLookUps {o p : Owner} (hp : o ≠ p) {s u : Store} (hsame : SameBut p s u) :
    SameLookUps o s u where
  get n := (Store.sameBut_get hsame hp n).1
  inject text := ((Store.through_inject o text).blind hp hsame).1
  injectJson v := ((Store.through_injectJson o v).blind hp hsame).1

/-- **The local variables of one part of a run are hidden from another:** `p` and `q` are the
parts. -/
structure Hidden (r : RunSetup) (f : SuiteFile) (suite : Suite) (p q : CasePart) : Prop where
  /-- What `p` does to local variables it does to those of its own owner. -/
  writes : ∀ o, o ≠ ownerOf suite p.testCase → SameLocals o p.before p.after
  /-- In no store does it matter to a look-up by the owner of `q` what the owner of `p` has. -/
  lookUps : ∀ m u, SameBut (ownerOf suite p.testCase) m u →
    SameLookUps (ownerOf suite q.testCase) m u
  /-- With any other local variables of the owner of `p` in their place, `q` asks the same
  questions, leaves the same entries, and leaves a store that differs in nothing but these. -/
  run : ∀ u, SameBut (ownerOf suite p.testCase) q.before u →
    ∃ u', (caseRun r f suite q.testCase).Runs u q.log (.ok q.entries) u' ∧
      SameBut (ownerOf suite p.testCase) q.after u'

/-- Parts of different owners, each a run of a case that keeps to its scope. -/
theorem hidden_of_keepsToScope {r : RunSetup} {f : SuiteFile} {suite : Suite} {p q : CasePart}
    (howners : ownerOf suite q.testCase ≠ ownerOf suite p.testCase)
    (hp : p.IsRun (caseRun r f suite)) (hq : q.IsRun (caseRun r f suite))
    (hpkeeps : KeepsToScope r f suite p.testCase) (hqkeeps : KeepsToScope r f suite q.testCase) :
    Hidden r f suite p q where
  writes _ ho := hpkeeps.untouched ho _ _ _ _ hp
  lookUps _ _ hsame := sameLookUps howners hsame
  run _ hsame := hqkeeps.blind howners _ _ _ _ _ hsame hq

/-- **LOCAL VARIABLES ARE PRIVATE TO A TEST CASE WITH AN ID OF ITS OWN.**  A run of a suite, from
any store and whatever the outside does, has one part for each case, in order, and each case uses
variables through the scope of its own owner only.  Of two cases with different ids, whichever runs
first, the local variables of one are hidden from the other.  Custom code is to use the scope that
it is given. -/
theorem locals_stay_private (r : RunSetup) (f : SuiteFile)
    (hcustom : f.suite.kind = .ui → ∀ c ∈ f.suite.cases, r.custom.Scoped (ownerOf f.suite c))
    (b : Behaviour outside) (s : Store) (past : Log) :
    ∃ (parts : List CasePart) (s' : Store),
      Task.play b (suiteEntries r f f.suite) s past =
        ((.ok (parts.flatMap CasePart.entries), s'), past ++ parts.flatMap CasePart.log) ∧
      parts.map CasePart.testCase = f.suite.cases ∧ CasePart.Follow s parts s' ∧
      (∀ p ∈ parts, p.IsRun (caseRun r f f.suite) ∧ KeepsToScope r f f.suite p.testCase) ∧
      ∀ p ∈ parts, ∀ q ∈ parts, p.testCase.id ≠ q.testCase.id → Hidden r f f.suite p q := by
  obtain ⟨log, result, s', hplay, hruns⟩ := Task.exists_play b (suiteEntries r f f.suite) s past
  rw [suiteEntries_eq] at hruns
  obtain ⟨parts, hcases, hfollow, rfl, rfl, hall⟩ :=
    exists_parts (neverFails_caseRun r f f.suite) f.suite.cases hruns
  -- each case keeps to its scope, whatever runs before it
  have hkeeps : ∀ p ∈ parts, KeepsToScope r f f.suite p.testCase := by
    intro p hp
    have hcase : p.testCase ∈ f.suite.cases := by
      rw [← hcases]
      exact List.mem_map_of_mem hp
    exact keepsToScope fun hkind => hcustom hkind _ hcase
  refine ⟨parts, s', hplay, hcases, hfollow, fun p hp => ⟨hall p hp, hkeeps p hp⟩, ?_⟩
  intro p hp q hq hids
  -- two cases with different ids have different owners
  have howners : ownerOf f.suite q.testCase ≠ ownerOf f.suite p.testCase :=
    fun h => hids (congrArg Owner.testCase h).symm
  exact hidden_of_keepsToScope howners (hall p hp) (hall q hq) (hkeeps p hp) (hkeeps q hq)

/-! ## §4. A shop. -/

/-- A suite of two cases.  The first writes a local variable `user`, and the step of the second
passes if it finds none. -/
def shop (first second : String) : Suite :=
  { id := "shop", name := "Shop", kind := .ui, cases := [
    { id := first, name := "sign in", kind := .ui, steps := [
      { id := "s1", keyword := "assertEquals",
        options := [("actual", .str "a"), ("expected", .str "a")],
        preProcess := [{ function := "timestamp", args := [.str "root"], var := some "user",
                         scope := some .perCase }] }] },
    { id := second, name := "look around", kind := .ui, steps := [
      { id := "s2", keyword := "assertEquals",
        options := [("actual", .str "\x7b\x7buser\x7d\x7d"), ("expected", .str "")] }] }] }

/-- The suite in its file. -/
def shopFile (first second : String) : SuiteFile := ⟨"shop.json", shop first second⟩

/-- The suite is read from a text, whatever the ids. -/
theorem shop_accepted (first second : String) :
    SuiteFile.ofText ((shop first second).toJson.pretty ++ "\n") = .ok (shop first second) := by
  have hplain : (shop first second).toJson.Plain := by
    simp [shop, Suite.toJson, TestCase.toJson, Step.toJson, PreProcessStep.toJson, optionalText,
      optionalJson, textsToJson, TextMap.toJson, TextMap.empty, Json.ofOption, Json.Plain,
      Json.PlainItems, Json.PlainMembers]
  unfold SuiteFile.ofText Decode.ofText
  rw [Reading.ofText_pretty hplain]
  rfl

/-- Custom code with one registered step. -/
def greeting : Rehearsal.Registered := { steps := [("greet", { echo := true })] }

/-- With ids of their own the second case does not find what the first one wrote, and would not
have found anything else in its place. -/
theorem locals_stay_private_shop :
    (∀ o, greeting.code.Scoped o) ∧
    ∃ p q : CasePart,
      p.testCase.id = "login" ∧ q.testCase.id = "tour" ∧ q.before = p.after ∧
      (p.entries ++ q.entries).map Entry.status = [.pass, .pass] ∧
      Hidden { custom := greeting.code } (shopFile "login" "tour") (shop "login" "tour") p q := by
  have hstatus : (Task.play (idle default)
      (suiteEntries { custom := greeting.code } (shopFile "login" "tour")
        (shopFile "login" "tour").suite) (.ofRegistry none) []).1.1.toOption.map
          (·.map Entry.status) = some [.pass, .pass] := by
    decide +kernel
  obtain ⟨parts, s', hplay, hcases, hfollow, -, hprivate⟩ :=
    locals_stay_private { custom := greeting.code } (shopFile "login" "tour")
      (fun _ _ _ => greeting.code_scoped) (idle default) (.ofRegistry none) []
  -- two cases, and so two parts
  obtain ⟨p, rest, rfl, hp, hrest⟩ := List.map_eq_cons_iff.mp hcases
  obtain ⟨q, rest, rfl, hq, hnil⟩ := List.map_eq_cons_iff.mp hrest
  obtain rfl := List.map_eq_nil_iff.mp hnil
  have hhidden := hprivate p (by simp) q (by simp) (by rw [hp, hq]; decide)
  rw [hplay] at hstatus
  refine ⟨fun _ => greeting.code_scoped, p, q, congrArg TestCase.id hp, congrArg TestCase.id hq,
    hfollow.2.1, ?_, hhidden⟩
  simpa using Option.some.inj hstatus

/-- **Cases with one id share their local variables.**  In a run from a store without variables the
local variable is written while the first case runs; the second looks the name up, finds it, and so
its step fails. -/
theorem locals_shared_by_equal_ids :
    let f := shopFile "login" "login"
    let play := fun t => Task.play (idle default) t (.ofRegistry none) []
    let first := f.suite.cases[0]?.getD default
    let second := f.suite.cases[1]?.getD default
    let between := (play (caseRun {} f f.suite first)).1.2
    SuiteFile.ofText ((shop "login" "login").toJson.pretty ++ "\n") = .ok f.suite ∧
    f.suite.cases.length = 2 ∧
    between.getLocal (ownerOf f.suite first) "user" = some "root" ∧
    between.getGlobal "user" = none ∧
    (between.get (ownerOf f.suite second) "user").1 = some "root" ∧
    (play (suiteEntries {} f f.suite)).1.1.toOption.map (·.map fun e => (e.caseName, e.error)) =
      some [("sign in", none),
        ("look around", some "Assertion failed: assertEquals: actual 'root', expected ''")] :=
  ⟨shop_accepted "login" "login", by decide +kernel⟩

end Run

end SuiteRunner

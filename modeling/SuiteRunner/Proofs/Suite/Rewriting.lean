import SuiteRunner.Proofs.Locator.Rewriting
import SuiteRunner.Suite.File

/-!
  SuiteRunner.Proofs.Suite.Rewriting
  ────────────────────────────────
  **A SUITE THAT WAS READ IS READ BACK FROM WHAT IS WRITTEN OF IT.**

  A suite is written with all its fields under their own names, be they missing, null or written
  in another way in the document that it was read from.  What is written is read as the suite:
  all its cases, items, steps, assertions, locators, tags and free documents.

  Each record has two lemmas.  One says what is true of every record that is read (`yields_…`), and
  the other that every such record is read back (`….readsBack`); the records that have others as
  parts use the lemmas of their parts.

    • `Suite.readsBack_iff` — the suites that are read back are the proper ones,
    • `suite_rewritten`, `file_rewritten` — whatever document or text a suite is read from, it is
      read back.
-/

namespace SuiteRunner

open Decode

/-! ## §1. Proper suites. -/

/-- A document that may be missing is proper, and is not null, if it is there. -/
def ProperDocument (v? : Option Json) : Prop := ∀ v, v? = some v → v.Proper ∧ v ≠ .null

def PreProcessStep.Proper (s : PreProcessStep) : Prop := ∀ v ∈ s.args, v.Proper

structure Assertion.Proper (a : Assertion) : Prop where
  expected : a.expected.Proper
  matchValue : ProperDocument a.matchValue

def CustomCall.Proper (c : CustomCall) : Prop := ∀ v ∈ c.args, v.Proper

/-- A data item with proper documents and parts. -/
structure DataItem.Proper (d : DataItem) : Prop where
  body : ProperDocument d.body
  preProcess : ∀ s ∈ d.preProcess, s.Proper
  assertions : ∀ a ∈ d.assertions, a.Proper
  responseSchema : ProperDocument d.responseSchema

/-- A step with proper documents and parts. -/
structure Step.Proper (s : Step) : Prop where
  locator : ∀ l, s.locator = some l → l.Proper
  value : ProperDocument s.value
  options : (Json.obj s.options).Proper
  customFunction : ∀ c, s.customFunction = some c → c.Proper
  preProcess : ∀ q ∈ s.preProcess, q.Proper

/-- A case with proper items, steps and priority. -/
structure TestCase.Proper (c : TestCase) : Prop where
  data : ∀ d ∈ c.data, d.Proper
  steps : ∀ s ∈ c.steps, s.Proper
  priority : ProperDocument c.priority

/-- **A proper suite:** in its free documents no object has a key twice, and none that may be
missing is null; the numbers in its locators are within their bounds. -/
def Suite.Proper (s : Suite) : Prop := ∀ c ∈ s.cases, c.Proper

/-- A document that is not there has no object with a key twice. -/
theorem properDocument_none : ProperDocument none := fun _ h => by cases h

/-! ## §2. What is read is proper. -/

/-- What is read as a step that runs before a request or an action is proper in its arguments. -/
theorem yields_preProcessStep : Yields PreProcessStep.decode PreProcessStep.Proper := by
  apply yields_record
  · exact fun v hv => absurd hv List.not_mem_nil
  · unfold PreProcessStep.fields
    refine keeps_cons (keeps_other_must fun _ _ h => h) ?_
    refine keeps_cons (keeps_may (yields_list yields_json) fun _ _ ha _ => ha) ?_
    refine keeps_cons (keeps_other_may fun _ _ h => h) ?_
    refine keeps_cons (keeps_other_may fun _ _ h => h) ?_
    exact keeps_cons (keeps_other_may fun _ _ h => h) keeps_nil

/-- What is read as an assertion is proper in what it expects. -/
theorem yields_assertion : Yields Assertion.decode Assertion.Proper := by
  apply yields_record
  · exact ⟨trivial, properDocument_none⟩
  · -- two fields hold free documents; the others do not touch them
    unfold Assertion.fields
    refine keeps_cons (keeps_other_must fun _ _ h => { h with }) ?_
    refine keeps_cons (keeps_other_may fun _ _ h => { h with }) ?_
    refine keeps_cons (keeps_other_may fun _ _ h => { h with }) ?_
    refine keeps_cons (keeps_may yields_json fun _ _ ha h => { h with expected := ha }) ?_
    refine keeps_cons (keeps_other_may fun _ _ h => { h with }) ?_
    refine keeps_cons (keeps_may yields_optional_json fun _ _ ha h =>
      { h with matchValue := ha }) ?_
    exact keeps_cons (keeps_other_may fun _ _ h => { h with }) keeps_nil

/-- What is read as a call of custom code is proper in its arguments. -/
theorem yields_customCall : Yields CustomCall.decode CustomCall.Proper := by
  apply yields_record
  · exact fun v hv => absurd hv List.not_mem_nil
  · unfold CustomCall.fields
    refine keeps_cons (keeps_other_must fun _ _ h => h) ?_
    exact keeps_cons (keeps_may (yields_list yields_json) fun _ _ ha _ => ha) keeps_nil

/-- **What is read as an item is proper,** with all its documents and parts. -/
theorem yields_dataItem : Yields DataItem.decode DataItem.Proper := by
  apply yields_record
  · exact
      { body := properDocument_none
        preProcess := fun s hs => absurd hs List.not_mem_nil
        assertions := fun a ha => absurd ha List.not_mem_nil
        responseSchema := properDocument_none }
  · unfold DataItem.fields
    refine keeps_cons (keeps_other_may fun _ _ h => { h with }) ?_
    refine keeps_cons (keeps_other_may fun _ _ h => { h with }) ?_
    refine keeps_cons (keeps_other_may fun _ _ h => { h with }) ?_
    refine keeps_cons (keeps_other_may fun _ _ h => { h with }) ?_
    refine keeps_cons (keeps_may yields_optional_json fun _ _ ha h =>
      { h with body := ha }) ?_
    refine keeps_cons (keeps_other_may fun _ _ h => { h with }) ?_
    refine keeps_cons (keeps_may (yields_list yields_preProcessStep) fun _ _ ha h =>
      { h with preProcess := ha }) ?_
    refine keeps_cons (keeps_may (yields_list yields_assertion) fun _ _ ha h =>
      { h with assertions := ha }) ?_
    refine keeps_cons (keeps_may yields_optional_json fun _ _ ha h =>
      { h with responseSchema := ha }) ?_
    refine keeps_cons (keeps_other_may fun _ _ h => { h with }) ?_
    exact keeps_cons (keeps_other_may fun _ _ h => { h with }) keeps_nil

/-- **What is read as a step is proper,** with its value, its options and its locator. -/
theorem yields_step : Yields Step.decode Step.Proper := by
  apply yields_record
  · exact
      { locator := fun l h => by cases h
        value := properDocument_none
        options := ⟨List.nodup_nil, trivial⟩
        customFunction := fun c h => by cases h
        preProcess := fun q hq => absurd hq List.not_mem_nil }
  · unfold Step.fields
    refine keeps_cons (keeps_other_must fun _ _ h => { h with }) ?_
    refine keeps_cons (keeps_other_must fun _ _ h => { h with }) ?_
    refine keeps_cons (keeps_other_may fun _ _ h => { h with }) ?_
    refine keeps_cons (keeps_may (yields_optional yields_locator) fun _ _ ha h =>
      { h with locator := ha }) ?_
    refine keeps_cons (keeps_may yields_optional_json fun _ _ ha h =>
      { h with value := ha }) ?_
    refine keeps_cons (keeps_may yields_jsonMap fun _ _ ha h => { h with options := ha }) ?_
    refine keeps_cons (keeps_may (yields_optional yields_customCall) fun _ _ ha h =>
      { h with customFunction := ha }) ?_
    refine keeps_cons (keeps_other_may fun _ _ h => { h with }) ?_
    refine keeps_cons (keeps_may (yields_list yields_preProcessStep) fun _ _ ha h =>
      { h with preProcess := ha }) ?_
    refine keeps_cons (keeps_other_may fun _ _ h => { h with }) ?_
    refine keeps_cons (keeps_other_may fun _ _ h => { h with }) ?_
    refine keeps_cons (keeps_other_may fun _ _ h => { h with }) ?_
    exact keeps_cons (keeps_other_may fun _ _ h => { h with }) keeps_nil

/-- A case is as proper as its items and steps. -/
theorem yields_testCase : Yields TestCase.decode TestCase.Proper := by
  apply yields_record
  · exact
      { data := fun d hd => absurd hd List.not_mem_nil
        steps := fun s hs => absurd hs List.not_mem_nil
        priority := properDocument_none }
  · unfold TestCase.fields
    refine keeps_cons (keeps_other_may fun _ _ h => { h with }) ?_
    refine keeps_cons (keeps_other_must fun _ _ h => { h with }) ?_
    refine keeps_cons (keeps_other_must fun _ _ h => { h with }) ?_
    refine keeps_cons (keeps_other_may fun _ _ h => { h with }) ?_
    refine keeps_cons (keeps_may (yields_list yields_dataItem) fun _ _ ha h =>
      { h with data := ha }) ?_
    refine keeps_cons (keeps_may (yields_list yields_step) fun _ _ ha h =>
      { h with steps := ha }) ?_
    refine keeps_cons (keeps_other_may fun _ _ h => { h with }) ?_
    exact keeps_cons (keeps_may yields_optional_json fun _ _ ha h =>
      { h with priority := ha }) keeps_nil

/-- **Only proper suites are read.** -/
theorem yields_suite : Yields Suite.decode Suite.Proper := by
  apply yields_record
  · exact fun c hc => absurd hc List.not_mem_nil
  · unfold Suite.fields
    refine keeps_cons (keeps_other_may fun _ _ h => h) ?_
    refine keeps_cons (keeps_other_must fun _ _ h => h) ?_
    refine keeps_cons (keeps_other_may fun _ _ h => h) ?_
    refine keeps_cons (keeps_other_must fun _ _ h => h) ?_
    refine keeps_cons (keeps_other_may fun _ _ h => h) ?_
    refine keeps_cons (keeps_other_may fun _ _ h => h) ?_
    exact keeps_cons (keeps_must (yields_list yields_testCase) fun _ _ ha _ => ha) keeps_nil

/-! ## §3. Proper suites are read back. -/

/-- Each word is read back as what it stands for. -/
theorem Scope.readsBack (c : Scope) : ReadsBack Scope.decode (fun c => .str c.word) c :=
  readsBack_choice (by cases c <;> rfl)

theorem SuiteKind.readsBack (k : SuiteKind) : ReadsBack SuiteKind.decode (fun k => .str k.word) k :=
  readsBack_choice (by cases k <;> rfl)

theorem CaseKind.readsBack (k : CaseKind) : ReadsBack CaseKind.decode (fun k => .str k.word) k :=
  readsBack_choice (by cases k <;> rfl)

theorem AssertionKind.readsBack (k : AssertionKind) :
    ReadsBack AssertionKind.decode (fun k => .str k.word) k :=
  readsBack_choice (by cases k <;> rfl)

/-- A list of texts is read back. -/
theorem readsBack_texts (xs : List String) : ReadsBack (list text) textsToJson xs :=
  readsBack_list fun s _ => readsBack_text s

/-- **Proper parts are read back,** from the smallest on: every field is written under its own name,
and what is not written is what a missing field means. -/
theorem PreProcessStep.readsBack {s : PreProcessStep} (h : s.Proper) :
    ReadsBack PreProcessStep.decode PreProcessStep.toJson s := by
  have hmapTo : ReadsBack (optional textMap) (Json.ofOption TextMap.toJson) s.mapTo :=
    readsBack_optional fun m _ => ⟨readsBack_textMap m, by simp [TextMap.toJson]⟩
  have hscope : ReadsBack (optional Scope.decode)
      (Json.ofOption fun (c : Scope) => .str c.word) s.scope :=
    readsBack_optional fun c _ => ⟨Scope.readsBack c, by simp⟩
  intro p hp
  apply record_written "struct PreProcessStep" hp (by decide) rfl
  unfold PreProcessStep.fields
  refine readInOrder_must (readsBack_text s.function) hp ?_
  refine readInOrder_may (readsBack_jsons h) hp ?_
  refine readInOrder_may (readsBack_optional_text s.var) hp ?_
  refine readInOrder_may hmapTo hp ?_
  exact readInOrder_may hscope hp rfl

/-- An assertion is read back, with the fields of every kind. -/
theorem Assertion.readsBack {a : Assertion} (h : a.Proper) :
    ReadsBack Assertion.decode Assertion.toJson a := by
  obtain ⟨hexpected, hvalue⟩ := h
  intro p hp
  apply record_written "struct Assertion" hp (by decide) rfl
  unfold Assertion.fields
  refine readInOrder_must (AssertionKind.readsBack a.kind) hp ?_
  refine readInOrder_may (readsBack_optional_text a.jsonPath) hp ?_
  refine readInOrder_may (readsBack_optional_text a.xpathExpression) hp ?_
  refine readInOrder_may (readsBack_json hexpected) hp ?_
  refine readInOrder_may (readsBack_optional_text a.matchField) hp ?_
  refine readInOrder_may (readsBack_optional_json hvalue) hp ?_
  exact readInOrder_may (readsBack_optional_text a.assertField) hp rfl

/-- A call of custom code is read back. -/
theorem CustomCall.readsBack {c : CustomCall} (h : c.Proper) :
    ReadsBack CustomCall.decode CustomCall.toJson c := by
  intro p hp
  apply record_written "struct CustomFunctionCall" hp (by decide) rfl
  unfold CustomCall.fields
  refine readInOrder_must (readsBack_text c.function) hp ?_
  exact readInOrder_may (readsBack_jsons h) hp rfl

/-- An item is read back, since its parts are. -/
theorem DataItem.readsBack {d : DataItem} (h : d.Proper) :
    ReadsBack DataItem.decode DataItem.toJson d := by
  obtain ⟨hbody, hpreProcess, hassertions, hschema⟩ := h
  intro p hp
  apply record_written "struct TestData" hp (by decide) rfl
  unfold DataItem.fields
  refine readInOrder_may (readsBack_text d.name) hp ?_
  refine readInOrder_may (readsBack_text d.method) hp ?_
  refine readInOrder_may (readsBack_text d.endpoint) hp ?_
  refine readInOrder_may (readsBack_textMap d.headers) hp ?_
  refine readInOrder_may (readsBack_optional_json hbody) hp ?_
  refine readInOrder_may (readsBack_optional_text d.bodyFile) hp ?_
  refine readInOrder_may (readsBack_list fun s hs => PreProcessStep.readsBack (hpreProcess s hs))
    hp ?_
  refine readInOrder_may (readsBack_list fun a ha => Assertion.readsBack (hassertions a ha)) hp ?_
  refine readInOrder_may (readsBack_optional_json hschema) hp ?_
  refine readInOrder_may (readsBack_optional_text d.responseSchemaFile) hp ?_
  exact readInOrder_may (readsBack_textMap d.store) hp rfl

/-- A step is read back, with its locator. -/
theorem Step.readsBack {s : Step} (h : s.Proper) : ReadsBack Step.decode Step.toJson s := by
  obtain ⟨hlocator, hvalue, hoptions, hcall, hpreProcess⟩ := h
  have hlocator : ReadsBack (optional Locator.decode) (Json.ofOption Locator.toJson) s.locator :=
    readsBack_optional fun l hl =>
      ⟨Locator.readsBack (hlocator l hl), by cases l; simp [Locator.toJson]⟩
  have hcall : ReadsBack (optional CustomCall.decode) (Json.ofOption CustomCall.toJson)
      s.customFunction :=
    readsBack_optional fun c hc => ⟨CustomCall.readsBack (hcall c hc), by simp [CustomCall.toJson]⟩
  intro p hp
  apply record_written "struct TestStep" hp (by decide) rfl
  unfold Step.fields
  refine readInOrder_must (readsBack_text s.id) hp ?_
  refine readInOrder_must (readsBack_text s.keyword) hp ?_
  refine readInOrder_may (readsBack_optional_text s.description) hp ?_
  refine readInOrder_may hlocator hp ?_
  refine readInOrder_may (readsBack_optional_json hvalue) hp ?_
  refine readInOrder_may (readsBack_jsonMap hoptions) hp ?_
  refine readInOrder_may hcall hp ?_
  refine readInOrder_may (readsBack_optional_text s.customCode) hp ?_
  refine readInOrder_may (readsBack_list fun q hq => PreProcessStep.readsBack (hpreProcess q hq))
    hp ?_
  refine readInOrder_may (readsBack_textMap s.store) hp ?_
  refine readInOrder_may (readsBack_textMap s.localStore) hp ?_
  refine readInOrder_may (readsBack_boolean s.skipOnFailure) hp ?_
  exact readInOrder_may (readsBack_boolean s.enabled) hp rfl

/-- **A case is read back,** with all its items and steps. -/
theorem TestCase.readsBack {c : TestCase} (h : c.Proper) :
    ReadsBack TestCase.decode TestCase.toJson c := by
  obtain ⟨hdata, hsteps, hpriority⟩ := h
  intro p hp
  apply record_written "struct TestCase" hp (by decide) rfl
  unfold TestCase.fields
  refine readInOrder_may (readsBack_text c.id) hp ?_
  refine readInOrder_must (readsBack_text c.name) hp ?_
  refine readInOrder_must (CaseKind.readsBack c.kind) hp ?_
  refine readInOrder_may (readsBack_optional_text c.status) hp ?_
  refine readInOrder_may (readsBack_list fun d hd => DataItem.readsBack (hdata d hd)) hp ?_
  refine readInOrder_may (readsBack_list fun s hs => Step.readsBack (hsteps s hs)) hp ?_
  refine readInOrder_may (readsBack_texts c.dependsOn) hp ?_
  exact readInOrder_may (readsBack_optional_json hpriority) hp rfl

/-- **A proper suite is read back.** -/
theorem Suite.readsBack {s : Suite} (h : s.Proper) : ReadsBack Suite.decode Suite.toJson s := by
  intro p hp
  apply record_written "struct TestSuite" hp (by decide) rfl
  unfold Suite.fields
  refine readInOrder_may (readsBack_text s.id) hp ?_
  refine readInOrder_must (readsBack_text s.name) hp ?_
  refine readInOrder_may (readsBack_text s.application) hp ?_
  refine readInOrder_must (SuiteKind.readsBack s.kind) hp ?_
  refine readInOrder_may (readsBack_text s.baseUrl) hp ?_
  refine readInOrder_may (readsBack_list fun m _ => readsBack_textMap m) hp ?_
  exact readInOrder_must (readsBack_list fun c hc => TestCase.readsBack (h c hc)) hp rfl

/-- **The suites that are read back are the proper ones.** -/
theorem Suite.readsBack_iff {s : Suite} :
    Decode.ofJson Suite.decode s.toJson = .ok s ↔ s.Proper := by
  constructor
  · exact fun h => yields_suite _ _ s h
  · exact fun h => Suite.readsBack h ⟨.value, none⟩ ⟨by decide, rfl⟩

/-- **A SUITE IS STABLE UNDER REWRITING.**  Whatever the document of a suite, writing the suite and
reading what was written gives the suite again. -/
theorem suite_rewritten {v : Json} {s : Suite} (h : Decode.ofJson Suite.decode v = .ok s) :
    Decode.ofJson Suite.decode s.toJson = .ok s :=
  Suite.readsBack_iff.mpr (yields_suite _ _ s h)

/-- A document of a suite with a field that is not known, a kind in lower case, fields that are null
and fields that are missing. -/
def looseDocument : Json := .obj [
  ("suiteName", .str "Shop"), ("type", .str "ui"), ("comment", .arr [.null]),
  ("testCases", .arr [.obj [
    ("name", .str "look"), ("type", .str "ui"), ("priority", .null),
    ("testSteps", .arr [.obj [
      ("id", .str "s1"), ("keyword", .str "click"), ("value", .null),
      ("options", .obj [("force", .bool true), ("more", .arr [.obj [("a", .null)]])]),
      ("locator", .obj [
        ("strategy", .str "css"), ("filter", .null), ("index", .str "last"),
        ("filters", .arr [.obj [("type", .str "has"), ("locator", .obj [
          ("strategy", .str "text"), ("value", .str "x"), ("index", Json.ofInt (-2))])]]),
        ("chain", .arr [.obj [("index", Json.ofInt 3), ("type", .str "nth")]])])]])]])]

/-- A loose document is accepted, and what is written of it is read back. -/
theorem suite_rewritten_loose :
    ∃ s, Decode.ofJson Suite.decode looseDocument = .ok s ∧
      s.kind = .ui ∧ s.cases.map (fun c => c.steps.length) = [1] ∧
      Decode.ofJson Suite.decode s.toJson = .ok s :=
  ⟨_, rfl, rfl, rfl, suite_rewritten (v := looseDocument) rfl⟩

/-- A suite that was read from the text of a file is read back as well. -/
theorem file_rewritten {content : String} {s : Suite} (h : SuiteFile.ofText content = .ok s) :
    Decode.ofJson Suite.decode s.toJson = .ok s := by
  unfold SuiteFile.ofText at h
  split at h
  · cases h
  · next s' hs =>
    split at h
    · cases h
    · cases h
      obtain ⟨s', hread, hs⟩ := bind_eq_ok_iff.mp hs
      have hsame : s' = s := by
        split at hs
        · cases hs
        · exact Except.ok.inj hs
      rw [hsame] at hread
      exact Suite.readsBack_iff.mpr (yields_suite _ _ s hread)

end SuiteRunner

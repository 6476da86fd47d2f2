import SuiteRunner.Locator.Document
import SuiteRunner.Suite.Basic

/-!
  SuiteRunner.Suite.Document
  ────────────────────────────────
  **SUITES AS DOCUMENTS.**

  Each record has a list of fields, which is all that reading needs, and a function that writes
  all of its fields in the same order.
-/

namespace SuiteRunner

open Decode

/-! ## §1. Reading the parts. -/

/-- The words for scopes. -/
def Scope.words : List (String × Scope) := [("global", .global), ("local", .perCase)]

/-- Read a scope. -/
def Scope.decode : Decoder Scope := choice (Scope.words.map Prod.fst) Scope.words

/-- The words for kinds of suites. -/
def SuiteKind.words : List (String × SuiteKind) :=
  [("API", .api), ("api", .api), ("UI", .ui), ("ui", .ui)]

/-- Read a kind of suite. -/
def SuiteKind.decode : Decoder SuiteKind := choice (SuiteKind.words.map Prod.fst) SuiteKind.words

/-- The words for kinds of cases. -/
def CaseKind.words : List (String × CaseKind) :=
  [("REST", .rest), ("rest", .rest), ("SOAP", .soap), ("soap", .soap), ("UI", .ui), ("ui", .ui)]

/-- Read a kind of case. -/
def CaseKind.decode : Decoder CaseKind := choice (CaseKind.words.map Prod.fst) CaseKind.words

/-- Read a kind of assertion. -/
def AssertionKind.decode : Decoder AssertionKind :=
  choice (AssertionKind.named.map Prod.fst) AssertionKind.named

/-- The fields of a pre-process step. -/
def PreProcessStep.fields : List (RecordField PreProcessStep) := [
  must "function" text fun a s => { s with function := a },
  may "args" (list json) fun a s => { s with args := a },
  may "var" (optional text) fun a s => { s with var := a },
  may "mapTo" (optional textMap) fun a s => { s with mapTo := a },
  may "scope" (optional Scope.decode) fun a s => { s with scope := a }]

/-- Read a pre-process step. -/
def PreProcessStep.decode : Decoder PreProcessStep :=
  record "struct PreProcessStep" PreProcessStep.fields {}

/-- The fields of an assertion. -/
def Assertion.fields : List (RecordField Assertion) := [
  must "type" AssertionKind.decode fun a s => { s with kind := a },
  may "jsonPath" (optional text) fun a s => { s with jsonPath := a },
  may "xpathExpression" (optional text) fun a s => { s with xpathExpression := a },
  may "expected" json fun a s => { s with expected := a },
  may "matchField" (optional text) fun a s => { s with matchField := a },
  may "matchValue" (optional json) fun a s => { s with matchValue := a },
  may "assertField" (optional text) fun a s => { s with assertField := a }]

/-- Read an assertion. -/
def Assertion.decode : Decoder Assertion := record "struct Assertion" Assertion.fields {}

/-- The fields of a custom call. -/
def CustomCall.fields : List (RecordField CustomCall) := [
  must "function" text fun a s => { s with function := a },
  may "args" (list json) fun a s => { s with args := a }]

/-- Read a custom call. -/
def CustomCall.decode : Decoder CustomCall :=
  record "struct CustomFunctionCall" CustomCall.fields {}

/-! ## §2. Reading items, steps, cases and suites. -/

/-- The fields of a data item. -/
def DataItem.fields : List (RecordField DataItem) := [
  may "name" text fun a s => { s with name := a },
  may "method" text fun a s => { s with method := a },
  may "endpoint" text fun a s => { s with endpoint := a },
  may "headers" textMap fun a s => { s with headers := a },
  may "body" (optional json) fun a s => { s with body := a },
  may "bodyFile" (optional text) fun a s => { s with bodyFile := a },
  may "preProcess" (list PreProcessStep.decode) fun a s => { s with preProcess := a },
  may "assertions" (list Assertion.decode) fun a s => { s with assertions := a },
  may "responseSchema" (optional json) fun a s => { s with responseSchema := a },
  may "responseSchemaFile" (optional text) fun a s => { s with responseSchemaFile := a },
  may "store" textMap fun a s => { s with store := a }]

/-- Read a data item. -/
def DataItem.decode : Decoder DataItem := record "struct TestData" DataItem.fields {}

/-- The fields of a step. -/
def Step.fields : List (RecordField Step) := [
  must "id" text fun a s => { s with id := a },
  must "keyword" text fun a s => { s with keyword := a },
  may "description" (optional text) fun a s => { s with description := a },
  may "locator" (optional Locator.decode) fun a s => { s with locator := a },
  may "value" (optional json) fun a s => { s with value := a },
  may "options" jsonMap fun a s => { s with options := a },
  may "customFunction" (optional CustomCall.decode) fun a s => { s with customFunction := a },
  may "customCode" (optional text) fun a s => { s with customCode := a },
  may "preProcess" (list PreProcessStep.decode) fun a s => { s with preProcess := a },
  may "store" textMap fun a s => { s with store := a },
  may "localStore" textMap fun a s => { s with localStore := a },
  may "skipOnFailure" boolean fun a s => { s with skipOnFailure := a },
  may "enabled" boolean fun a s => { s with enabled := a }]

/-- Read a step. -/
def Step.decode : Decoder Step := record "struct TestStep" Step.fields {}

/-- The fields of a test case. -/
def TestCase.fields : List (RecordField TestCase) := [
  may "id" text fun a s => { s with id := a },
  must "name" text fun a s => { s with name := a },
  must "type" CaseKind.decode fun a s => { s with kind := a },
  may "status" (optional text) fun a s => { s with status := a },
  may "testData" (list DataItem.decode) fun a s => { s with data := a },
  may "testSteps" (list Step.decode) fun a s => { s with steps := a },
  may "dependsOn" (list text) fun a s => { s with dependsOn := a },
  may "priority" (optional json) fun a s => { s with priority := a }]

/-- Read a test case. -/
def TestCase.decode : Decoder TestCase := record "struct TestCase" TestCase.fields {}

/-- The fields of a suite. -/
def Suite.fields : List (RecordField Suite) := [
  may "id" text fun a s => { s with id := a },
  must "suiteName" text fun a s => { s with name := a },
  may "applicationName" text fun a s => { s with application := a },
  must "type" SuiteKind.decode fun a s => { s with kind := a },
  may "baseUrl" text fun a s => { s with baseUrl := a },
  may "tags" (list textMap) fun a s => { s with tags := a },
  must "testCases" (list TestCase.decode) fun a s => { s with cases := a }]

/-- Read a suite. -/
def Suite.decode : Decoder Suite := record "struct TestSuite" Suite.fields {}

/-! ## §3. Writing. -/

/-- The document of texts under keys. -/
def TextMap.toJson (m : TextMap) : Json := .obj (m.entries.map fun (k, v) => (k, .str v))

/-- A list of texts. -/
def textsToJson (xs : List String) : Json := .arr (xs.map .str)

/-- The document of a pre-process step. -/
def PreProcessStep.toJson (s : PreProcessStep) : Json := .obj [
  ("function", .str s.function), ("args", .arr s.args), ("var", optionalText s.var),
  ("mapTo", Json.ofOption TextMap.toJson s.mapTo),
  ("scope", Json.ofOption (fun (c : Scope) => .str c.word) s.scope)]

/-- The document of an assertion. -/
def Assertion.toJson (a : Assertion) : Json := .obj [
  ("type", .str a.kind.word), ("jsonPath", optionalText a.jsonPath),
  ("xpathExpression", optionalText a.xpathExpression), ("expected", a.expected),
  ("matchField", optionalText a.matchField), ("matchValue", optionalJson a.matchValue),
  ("assertField", optionalText a.assertField)]

/-- The document of a custom call. -/
def CustomCall.toJson (c : CustomCall) : Json := .obj [
  ("function", .str c.function), ("args", .arr c.args)]

/-- The document of a data item. -/
def DataItem.toJson (d : DataItem) : Json := .obj [
  ("name", .str d.name), ("method", .str d.method), ("endpoint", .str d.endpoint),
  ("headers", d.headers.toJson), ("body", optionalJson d.body),
  ("bodyFile", optionalText d.bodyFile),
  ("preProcess", .arr (d.preProcess.map PreProcessStep.toJson)),
  ("assertions", .arr (d.assertions.map Assertion.toJson)),
  ("responseSchema", optionalJson d.responseSchema),
  ("responseSchemaFile", optionalText d.responseSchemaFile), ("store", d.store.toJson)]

/-- The document of a step. -/
def Step.toJson (s : Step) : Json := .obj [
  ("id", .str s.id), ("keyword", .str s.keyword), ("description", optionalText s.description),
  ("locator", Json.ofOption Locator.toJson s.locator), ("value", optionalJson s.value),
  ("options", .obj s.options), ("customFunction", Json.ofOption CustomCall.toJson s.customFunction),
  ("customCode", optionalText s.customCode),
  ("preProcess", .arr (s.preProcess.map PreProcessStep.toJson)), ("store", s.store.toJson),
  ("localStore", s.localStore.toJson), ("skipOnFailure", .bool s.skipOnFailure),
  ("enabled", .bool s.enabled)]

/-- The document of a test case. -/
def TestCase.toJson (c : TestCase) : Json := .obj [
  ("id", .str c.id), ("name", .str c.name), ("type", .str c.kind.word),
  ("status", optionalText c.status), ("testData", .arr (c.data.map DataItem.toJson)),
  ("testSteps", .arr (c.steps.map Step.toJson)), ("dependsOn", textsToJson c.dependsOn),
  ("priority", optionalJson c.priority)]

/-- The document of a suite. -/
def Suite.toJson (s : Suite) : Json := .obj [
  ("id", .str s.id), ("suiteName", .str s.name), ("applicationName", .str s.application),
  ("type", .str s.kind.word), ("baseUrl", .str s.baseUrl),
  ("tags", .arr (s.tags.map TextMap.toJson)), ("testCases", .arr (s.cases.map TestCase.toJson))]

end SuiteRunner

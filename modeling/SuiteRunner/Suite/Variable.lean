import SuiteRunner.Suite.Document

/-!
  SuiteRunner.Suite.Variable
  ────────────────────────────────
  **REGISTERED VARIABLES AS DOCUMENTS.**

  The document of a variable as it is exchanged with other tools: its id, its times and its owner
  along with the name, the value and the scope.
-/

namespace SuiteRunner

open Decode

/-- A registered variable with its id and its times. -/
structure VariableRecord where
  id : String := ""
  name : String := ""
  value : String := ""
  scope : Scope := .global
  suiteId : Option String := none
  testCaseId : Option String := none
  createdAt : Int := 0
  updatedAt : Int := 0
  deriving DecidableEq, Repr, Inhabited

/-- The fields of a variable. -/
def VariableRecord.fields : List (RecordField VariableRecord) := [
  must "id" text fun a s => { s with id := a },
  must "name" text fun a s => { s with name := a },
  must "value" text fun a s => { s with value := a },
  must "scope" Scope.decode fun a s => { s with scope := a },
  may "suiteId" (optional text) fun a s => { s with suiteId := a },
  may "testCaseId" (optional text) fun a s => { s with testCaseId := a },
  must "createdAt" int64 fun a s => { s with createdAt := a },
  must "updatedAt" int64 fun a s => { s with updatedAt := a }]

/-- Read a variable. -/
def VariableRecord.decode : Decoder VariableRecord :=
  record "struct Variable" VariableRecord.fields {}

/-- The document of a variable. -/
def VariableRecord.toJson (v : VariableRecord) : Json := .obj [
  ("id", .str v.id), ("name", .str v.name), ("value", .str v.value), ("scope", .str v.scope.word),
  ("suiteId", optionalText v.suiteId), ("testCaseId", optionalText v.testCaseId),
  ("createdAt", Json.ofInt v.createdAt), ("updatedAt", Json.ofInt v.updatedAt)]

end SuiteRunner

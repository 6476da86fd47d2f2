import SuiteRunner.Suite.Variable
import SuiteRunner.Variables.Registry

/-!
  SuiteRunner.Variables.Document
  ────────────────────────────────
  **THE REGISTRY AS A TEXT.**

  A registry is kept as a document: its rows as records of variables, and the number of the next
  row.  Numbers of rows are texts of digits, so there is no greatest one.  An empty text is a registry
  in which nothing was written yet.
-/

namespace SuiteRunner

open Decode

/-- A registry as a document has it. -/
structure RegistryDocument where
  nextId : String := ""
  records : List VariableRecord := []
  deriving DecidableEq, Repr, Inhabited

/-- The fields of a registry. -/
def RegistryDocument.fields : List (RecordField RegistryDocument) := [
  must "nextId" text fun a s => { s with nextId := a },
  must "variables" (list VariableRecord.decode) fun a s => { s with records := a }]

/-- The record of a row. -/
def Row.toRecord (r : Row) : VariableRecord where
  id := toString r.id
  name := r.key.name
  value := r.value
  scope := r.key.scope
  suiteId := some r.key.suite
  testCaseId := some r.key.testCase
  createdAt := r.createdAt
  updatedAt := r.updatedAt

/-- The number that a text of digits stands for. -/
def rowNumber? (text : String) : Option Nat :=
  if text.isEmpty || !text.toList.all isDigit then none else some (natOfDigits text.toList)

/-- The row of a record, if its id is a number. -/
def VariableRecord.toRow? (v : VariableRecord) : Option Row := do
  let id ← rowNumber? v.id
  return ⟨id, ⟨v.scope, v.suiteId.getD "", v.testCaseId.getD "", v.name⟩, v.value, v.createdAt,
    v.updatedAt⟩

namespace Registry

/-- The text of a registry. -/
def toText (r : Registry) : String :=
  (Json.obj [("nextId", .str (toString r.nextId)),
    ("variables", .arr (r.rows.map fun row => row.toRecord.toJson))]).pretty ++ "\n"

/-- **The registry of a text.** -/
def ofText? (text : String) : Option Registry :=
  if text.isEmpty then some .empty
  else
    match Decode.ofText (record "registry" RegistryDocument.fields {}) text with
    | .error _ => none
    | .ok d => do
      let rows ← d.records.mapM VariableRecord.toRow?
      let nextId ← rowNumber? d.nextId
      return ⟨rows, nextId⟩

end Registry

end SuiteRunner

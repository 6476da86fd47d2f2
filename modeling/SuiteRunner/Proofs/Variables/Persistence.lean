import SuiteRunner.Proofs.Json.Decoding
import SuiteRunner.Proofs.Json.Documents
import SuiteRunner.Variables.Document

/-!
  SuiteRunner.Proofs.Variables.Persistence
  ────────────────────────────────
  **A REGISTRY IS READ BACK FROM ITS TEXT.**

  The text of a registry holds all of it: the rows with their numbers, addresses, values and times,
  and the number of the next row.  Whatever the names and values are, the registry of the text is
  the one that was written, as long as its times are times of 64 bits.

    • `VariableRecord.decode_toJson` — the document of a variable is read as the variable,
    • `Row.toRow?_toRecord` — the record of a row stands for the row,
    • `Registry.ofText?_toText` — the text of a registry is read as the registry.
-/

namespace SuiteRunner

open Decode

/-! ## §1. Variables. -/

/-- A time of 64 bits. -/
def IsTime (t : Int) : Prop := -0x8000000000000000 ≤ t ∧ t ≤ 0x7fffffffffffffff

/-- A time is an integer of 64 bits. -/
theorem IsTime.fits {t : Int} (h : IsTime t) : Reading.Fits t := by
  obtain ⟨hlow, hhigh⟩ := h
  exact ⟨hlow, by omega⟩

theorem int64_of_isTime {t : Int} (h : IsTime t) (p : Place) :
    int64 p (.num (.ok (.int t))) = .ok t :=
  if_pos h

theorem Scope.decode_word (c : Scope) (p : Place) : Scope.decode p (.str (.ok c.word)) = .ok c := by
  cases c with
  | global => rfl
  | perCase => rfl

theorem decode_optionalText (s : Option String) (p : Place) :
    optional text p (Reading.ofJson (optionalText s)) = .ok s := by
  cases s with
  | none => rfl
  | some s => rfl

/-- **The document of a variable is read as the variable.** -/
theorem VariableRecord.decode_toJson {v : VariableRecord} (hcreated : IsTime v.createdAt)
    (hupdated : IsTime v.updatedAt) {p p' : Place} (hp : p.down = .ok p') :
    VariableRecord.decode p (Reading.ofJson v.toJson) = .ok v := by
  have hdoc : Reading.ofJson v.toJson = .obj (membersInOrder VariableRecord.fields
      [.str (.ok v.id), .str (.ok v.name), .str (.ok v.value), .str (.ok v.scope.word),
        Reading.ofJson (optionalText v.suiteId), Reading.ofJson (optionalText v.testCaseId),
        .num (.ok (.int v.createdAt)), .num (.ok (.int v.updatedAt))]) .closed := rfl
  rw [hdoc]
  apply record_inOrder "struct Variable" hp (by decide) rfl
  unfold VariableRecord.fields
  refine readInOrder_cons (read_must rfl _ _ _) ?_
  refine readInOrder_cons (read_must rfl _ _ _) ?_
  refine readInOrder_cons (read_must rfl _ _ _) ?_
  refine readInOrder_cons (read_must (Scope.decode_word v.scope p') _ _ _) ?_
  refine readInOrder_cons (read_may (decode_optionalText v.suiteId p') _ _ _) ?_
  refine readInOrder_cons (read_may (decode_optionalText v.testCaseId p') _ _ _) ?_
  refine readInOrder_cons (read_must (int64_of_isTime hcreated p') _ _ _) ?_
  exact readInOrder_cons (read_must (int64_of_isTime hupdated p') _ _ _) rfl

/-- **A record is written without doubles,** so its text is read back. -/
theorem VariableRecord.plain_toJson {v : VariableRecord} (hcreated : IsTime v.createdAt)
    (hupdated : IsTime v.updatedAt) : v.toJson.Plain := by
  have hoption (s : Option String) : (optionalText s).Plain := by
    cases s with
    | none => trivial
    | some s => trivial
  exact ⟨trivial, trivial, trivial, trivial, hoption _, hoption _, hcreated.fits, hupdated.fits,
    trivial⟩

/-! ## §2. Rows. -/

/-- The text of a number stands for the number. -/
theorem rowNumber?_toString (n : Nat) : rowNumber? (toString n) = some n := by
  have hne : (toString n).isEmpty = false := by
    rw [Bool.eq_false_iff, Ne, String.isEmpty_iff]
    intro hempty
    have hnil := congrArg String.toList hempty
    rw [toList_natText] at hnil
    exact digitsOf_ne_nil n hnil
  have hall : (toString n).toList.all isDigit = true := by
    rw [toList_natText, List.all_eq_true]
    exact fun c hc => isDigit_of_mem_digitsOf hc
  unfold rowNumber?
  rw [hne, hall, toList_natText, natOfDigits_toDigits]
  rfl

/-- **The record of a row stands for the row.** -/
theorem Row.toRow?_toRecord (r : Row) : r.toRecord.toRow? = some r := by
  unfold VariableRecord.toRow? Row.toRecord
  dsimp only
  rw [rowNumber?_toString]
  rfl

/-- Rows are read back from their records, in their order. -/
theorem mapM_toRecord (rows : List Row) :
    (rows.map Row.toRecord).mapM VariableRecord.toRow? = some rows := by
  induction rows with
  | nil => rfl
  | cons row rows ih =>
    rw [List.map_cons, List.mapM_cons, Row.toRow?_toRecord, ih]
    rfl

/-! ## §3. Registries. -/

namespace Registry

/-- A registry whose times are times of 64 bits. -/
def Timed (r : Registry) : Prop := ∀ row ∈ r.rows, IsTime row.createdAt ∧ IsTime row.updatedAt

/-- The document of a registry. -/
def document (r : Registry) : Json :=
  .obj [("nextId", .str (toString r.nextId)),
    ("variables", .arr ((r.rows.map Row.toRecord).map VariableRecord.toJson))]

theorem toText_eq (r : Registry) : r.toText = r.document.pretty ++ "\n" := by
  unfold toText document
  rw [List.map_map]
  rfl

/-- A registry with times that are times is a document without doubles. -/
theorem Timed.plain_document {r : Registry} (h : r.Timed) : r.document.Plain := by
  have hitems : ∀ rows : List Row, (∀ row ∈ rows, IsTime row.createdAt ∧ IsTime row.updatedAt) →
      Json.PlainItems ((rows.map Row.toRecord).map VariableRecord.toJson) := by
    intro rows hrows
    induction rows with
    | nil => trivial
    | cons row rows ih =>
      obtain ⟨hcreated, hupdated⟩ := hrows row List.mem_cons_self
      exact ⟨VariableRecord.plain_toJson hcreated hupdated,
        ih fun row hrow => hrows row (List.mem_cons_of_mem _ hrow)⟩
  exact ⟨trivial, hitems r.rows h, trivial⟩

/-- The document of a registry is read as its parts. -/
theorem Timed.decode_document {r : Registry} (h : r.Timed) {p p₁ p₂ p₃ : Place}
    (hp : p.down = .ok p₁) (hp₁ : p₁.down = .ok p₂) (hp₂ : p₂.down = .ok p₃) :
    record "registry" RegistryDocument.fields {} p (Reading.ofJson r.document)
      = .ok ⟨toString r.nextId, r.rows.map Row.toRecord⟩ := by
  have hrecords : Decode.list VariableRecord.decode p₁
      (Reading.ofJson (.arr ((r.rows.map Row.toRecord).map VariableRecord.toJson)))
        = .ok (r.rows.map Row.toRecord) := by
    apply list_map hp₁
    intro v hv
    obtain ⟨row, hrow, rfl⟩ := List.mem_map.mp hv
    obtain ⟨hcreated, hupdated⟩ := h row hrow
    exact VariableRecord.decode_toJson hcreated hupdated hp₂
  have hdoc : Reading.ofJson r.document = .obj (membersInOrder RegistryDocument.fields
      [.str (.ok (toString r.nextId)),
        Reading.ofJson (.arr ((r.rows.map Row.toRecord).map VariableRecord.toJson))]) .closed := rfl
  rw [hdoc]
  apply record_inOrder "registry" hp (by decide) rfl
  unfold RegistryDocument.fields
  refine readInOrder_cons (read_must rfl _ _ _) ?_
  exact readInOrder_cons (read_must hrecords _ _ _) rfl

/-- **The text of a registry is read as the registry.** -/
theorem ofText?_toText {r : Registry} (h : r.Timed) : ofText? r.toText = some r := by
  have hne : r.toText.isEmpty = false := by
    rw [Bool.eq_false_iff, Ne, String.isEmpty_iff]
    intro hempty
    have hlength := congrArg (fun s => s.toList.length) hempty
    simp only [toText_eq, String.toList_append, List.length_append] at hlength
    cases hlength
  have hdecode : Decode.ofText (record "registry" RegistryDocument.fields {}) r.toText
      = .ok ⟨toString r.nextId, r.rows.map Row.toRecord⟩ := by
    unfold Decode.ofText
    rw [toText_eq, Reading.ofText_pretty h.plain_document]
    dsimp only
    rw [h.decode_document rfl rfl rfl]
    rfl
  unfold ofText?
  rw [if_neg (by rw [hne]; decide), hdecode]
  dsimp only
  rw [mapM_toRecord, rowNumber?_toString]
  rfl

end Registry

end SuiteRunner

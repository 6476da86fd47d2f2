import SuiteRunner.Json.Decode
import SuiteRunner.Proofs.Outside.Results

/-!
  SuiteRunner.Proofs.Json.Decoding
  ────────────────────────────────
  **RECORDS THAT WERE WRITTEN FIELD BY FIELD ARE READ BACK.**

  A record that is written with all its fields in their order meets no unknown field, none twice and
  misses none, so reading it is reading its fields one after the other.

    • `fieldsOfMembers_inOrder` — members in the order of the fields are read one after the other,
    • `record_inOrder` — a record of all its fields is what reading the fields gives,
    • `list_map` — a list of values is read back if each value is.
-/

namespace SuiteRunner

namespace Decode

/-! ## §1. Fields. -/

section

variable {σ : Type} {p : Place}

/-- Read values into fields, in order. -/
def readInOrder (p : Place) : List (RecordField σ) → List Reading → σ → Except DecodeError σ
  | f :: fs, r :: rs, s => f.read p r s >>= readInOrder p fs rs
  | _, _, s => .ok s

theorem readInOrder_cons {f : RecordField σ} {r : Reading} {s t s' : σ} (h : f.read p r s = .ok t)
    {fs : List (RecordField σ)} {rs : List Reading} (hrest : readInOrder p fs rs t = .ok s') :
    readInOrder p (f :: fs) (r :: rs) s = .ok s' := by
  unfold readInOrder
  rw [h]
  exact hrest

theorem read_must {α : Type} {d : Decoder α} {r : Reading} {a : α} (h : d p r = .ok a)
    (name : String) (put : α → σ → σ) (s : σ) : (must name d put).read p r s = .ok (put a s) := by
  unfold must
  dsimp only
  rw [h]
  rfl

theorem read_may {α : Type} {d : Decoder α} {r : Reading} {a : α} (h : d p r = .ok a)
    (name : String) (put : α → σ → σ) (s : σ) : (may name d put).read p r s = .ok (put a s) := by
  unfold may
  dsimp only
  rw [h]
  rfl

/-- The members that fields in order make of values. -/
def membersInOrder (fields : List (RecordField σ)) (rs : List Reading) :
    List (Except SyntaxError String × Reading) :=
  fields.zipWith (fun f r => (.ok f.name, r)) rs

/-- A field is found by its name among fields with names of their own. -/
theorem find_field {fields : List (RecordField σ)} (hnames : (fields.map RecordField.name).Nodup)
    {f : RecordField σ} (hf : f ∈ fields) : fields.find? (fun g => g.name == f.name) = some f := by
  induction fields with
  | nil => cases hf
  | cons g fields ih =>
    rw [List.map_cons, List.nodup_cons] at hnames
    rcases List.mem_cons.mp hf with rfl | hrest
    · exact List.find?_cons_of_pos (beq_self_eq_true _)
    · have hne : ¬(g.name == f.name) = true := by
        rw [beq_iff_eq]
        intro heq
        exact hnames.1 (heq ▸ List.mem_map_of_mem hrest)
      rw [List.find?_cons_of_neg (p := fun g : RecordField σ => g.name == f.name) hne]
      exact ih hnames.2 hrest

/-- A member of a field that was not met before is read into the record. -/
theorem fieldsOfMembers_met {fields : List (RecordField σ)} {f : RecordField σ}
    (hfound : fields.find? (fun g => g.name == f.name) = some f) {seen : List String}
    (hnew : f.name ∉ seen) {r : Reading} {s t : σ} (hread : f.read p r s = .ok t)
    (ms : List (Except SyntaxError String × Reading)) :
    fieldsOfMembers p fields ((.ok f.name, r) :: ms) seen s
      = fieldsOfMembers p fields ms (f.name :: seen) t := by
  have hunseen : seen.contains f.name = false := by
    rw [Bool.eq_false_iff, Ne, List.contains_iff_mem]
    exact hnew
  rw [fieldsOfMembers]
  show (Except.ok f.name >>= _) = _
  rw [ok_bind, hfound]
  dsimp only
  rw [if_neg (by rw [hunseen]; decide), hread, ok_bind]

/-- What is read in order was read from the first field on. -/
theorem readInOrder_cons_eq {f : RecordField σ} {fs : List (RecordField σ)} {r : Reading}
    {rs : List Reading} {s s' : σ} (h : readInOrder p (f :: fs) (r :: rs) s = .ok s') :
    ∃ t, f.read p r s = .ok t ∧ readInOrder p fs rs t = .ok s' := by
  unfold readInOrder at h
  exact bind_eq_ok_iff.mp h

/-- **Members in the order of the fields are read one after the other.** -/
theorem fieldsOfMembers_inOrder {fields : List (RecordField σ)}
    (hnames : (fields.map RecordField.name).Nodup) (fs : List (RecordField σ)) :
    ∀ (rs : List Reading) (seen : List String) (s s' : σ), fs ⊆ fields →
      (fs.map RecordField.name).Nodup → (∀ f ∈ fs, f.name ∉ seen) → rs.length = fs.length →
      readInOrder p fs rs s = .ok s' →
      fieldsOfMembers p fields (membersInOrder fs rs) seen s
        = .ok ((fs.map RecordField.name).reverse ++ seen, s') := by
  -- on the fields that are still to be read
  induction fs with
  | nil =>
    intro rs seen s s' _ _ _ hlength hread
    cases rs with
    | nil =>
      cases hread
      rfl
    | cons r rs => cases hlength
  | cons f fs ih =>
    intro rs seen s s' hsub hapart hnew hlength hread
    cases rs with
    | nil => cases hlength
    | cons r rs =>
      rw [List.map_cons, List.nodup_cons] at hapart
      obtain ⟨t, hvalue, hrest⟩ := readInOrder_cons_eq hread
      have hlater : ∀ g ∈ fs, g.name ∉ f.name :: seen := by
        intro g hg hmem
        rcases List.mem_cons.mp hmem with heq | hseen
        · exact hapart.1 (heq ▸ List.mem_map_of_mem hg)
        · exact hnew g (List.mem_cons_of_mem _ hg) hseen
      have hmembers : membersInOrder (f :: fs) (r :: rs)
          = (.ok f.name, r) :: membersInOrder fs rs := rfl
      rw [hmembers, fieldsOfMembers_met (find_field hnames (hsub List.mem_cons_self))
          (hnew f List.mem_cons_self) hvalue,
        ih rs (f.name :: seen) t s' (fun _ hg => hsub (List.mem_cons_of_mem _ hg)) hapart.2
          hlater (Nat.succ.inj hlength) hrest]
      simp only [List.map_cons, List.reverse_cons, List.append_assoc]
      rfl

/-- A record that has all its fields misses none. -/
theorem missing_eq_none (fields : List (RecordField σ)) {seen : List String}
    (h : ∀ f ∈ fields, f.name ∈ seen) : missing? fields seen = none := by
  unfold missing?
  rw [Option.map_eq_none_iff, List.find?_eq_none]
  intro f hf hmiss
  rw [List.contains_iff_mem.mpr (h f hf), Bool.not_true, Bool.and_false] at hmiss
  cases hmiss

end

/-! ## §2. Records and lists. -/

section

variable {σ α : Type} {p p' : Place}

/-- Members that give all fields in order make the record that reading the fields gives. -/
theorem recordOfMembers_inOrder {fields : List (RecordField σ)} {start s : σ}
    (hnames : (fields.map RecordField.name).Nodup) {rs : List Reading}
    (hlength : rs.length = fields.length) (hread : readInOrder p fields rs start = .ok s) :
    recordOfMembers fields start p (membersInOrder fields rs) .closed = .ok s := by
  have hall := fieldsOfMembers_inOrder hnames fields rs [] start s (List.Subset.refl _) hnames
    (fun _ _ => List.not_mem_nil) hlength hread
  have hmissing : missing? fields ((fields.map RecordField.name).reverse ++ []) = none := by
    apply missing_eq_none
    intro f hf
    rw [List.append_nil, List.mem_reverse]
    exact List.mem_map_of_mem hf
  unfold recordOfMembers
  rw [hall, ok_bind]
  show (Except.ok () >>= _) = _
  rw [ok_bind, hmissing]

/-- **A record of all its fields is what reading the fields gives.** -/
theorem record_inOrder (name : String) {fields : List (RecordField σ)} {start s : σ}
    (hp : p.down = .ok p') (hnames : (fields.map RecordField.name).Nodup) {rs : List Reading}
    (hlength : rs.length = fields.length) (hread : readInOrder p' fields rs start = .ok s) :
    record name fields start p (.obj (membersInOrder fields rs) .closed) = .ok s := by
  unfold record
  dsimp only
  rw [hp]
  exact recordOfMembers_inOrder hnames hlength hread

/-- **A list of values is read back if each value is.** -/
theorem list_map {d : Decoder α} {write : α → Json} (hp : p.down = .ok p') {as_ : List α}
    (h : ∀ a ∈ as_, d p' (Reading.ofJson (write a)) = .ok a) :
    list d p (Reading.ofJson (.arr (as_.map write))) = .ok as_ := by
  have hitems : items d p' (Reading.ofItems (as_.map write)) = .ok as_ := by
    induction as_ with
    | nil => rfl
    | cons a as_ ih =>
      have hrest := ih fun b hb => h b (List.mem_cons_of_mem _ hb)
      rw [List.map_cons, Reading.ofItems, items, h a List.mem_cons_self, hrest]
      rfl
  unfold list
  rw [Reading.ofJson]
  dsimp only
  rw [hp]
  show items d p' _ >>= _ = _
  rw [hitems]
  rfl

end

end Decode

end SuiteRunner

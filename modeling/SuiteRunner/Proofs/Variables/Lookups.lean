import SuiteRunner.Proofs.Variables.Ownership

/-!
  SuiteRunner.Proofs.Variables.Lookups
  ────────────────────────────────
  **LOOKING VARIABLES UP CHANGES NONE OF THEM.**

  A look-up may bring a value of the registry into memory, so the store it leaves is another one.
  But whoever looked reads the same values as before, and nothing was written: `Remembers` relates
  the two stores.  What is done by look-ups alone is therefore a function of what the owner reads
  at first, however many look-ups it makes:

    • `get_get` — a look-up changes no value,
    • `Looks` — a function on stores that only looks, and its value by what is read,
    • `Looks.bind`, `Looks.map` — such functions one after another,
    • `looks_inject`, `looks_injectJson` — texts and documents are filled with the values read.
-/

namespace SuiteRunner

open Registry

/-! ## §1. Filling placeholders from fixed values. -/

namespace Template

/-- The text of pieces, each hole filled by the value of its name, or left empty. -/
def fillBy (g : String → Option String) : List Piece → List Char
  | [] => []
  | .char c :: rest => c :: fillBy g rest
  | .hole name :: rest => ((g name).getD "").toList ++ fillBy g rest

/-- A text with its placeholders filled. -/
def injectBy (g : String → Option String) (text : String) : String :=
  String.ofList (fillBy g (pieces text))

mutual
/-- A document with the placeholders in its strings and keys filled. -/
def injectJsonBy (g : String → Option String) : Json → Json
  | .str t => .str (injectBy g t)
  | .arr xs => .arr (injectItemsBy g xs)
  | .obj ms => Json.ofMembers (injectMembersBy g ms)
  | v => v

/-- The items of an array. -/
def injectItemsBy (g : String → Option String) : List Json → List Json
  | [] => []
  | x :: rest => injectJsonBy g x :: injectItemsBy g rest

/-- The members of an object. -/
def injectMembersBy (g : String → Option String) : List (String × Json) → List (String × Json)
  | [] => []
  | (k, v) :: rest => (injectBy g k, injectJsonBy g v) :: injectMembersBy g rest
end

/-- Items are filled one by one. -/
theorem injectItemsBy_eq_map (g : String → Option String) (xs : List Json) :
    injectItemsBy g xs = xs.map (injectJsonBy g) := by
  induction xs with
  | nil => rfl
  | cons x rest ih => exact congrArg (injectJsonBy g x :: ·) ih

end Template

namespace Store

/-! ## §2. What is left of a look-up. -/

/-- **A look-up changes no value:** what an owner finds after it is what the owner found before. -/
theorem get_get (s : Store) (o : Owner) (m n : String) :
    ((s.get o m).2.get o n).1 = (s.get o n).1 := by
  rw [get_value, get_value, rowValue_get, rowValue_get]
  -- a value that was found in a row is remembered in the map that it is from
  obtain ⟨v, -, hget⟩ | ⟨hm, v, hl, hget⟩ | ⟨hm, hl, v, hg, hget⟩ | ⟨-, -, -, hget⟩ :=
    get_by_values s o m
  · rw [hget]
  · have hlocal : (s.get o m).2.getLocal o n = if n = m then some v else s.getLocal o n := by
      rw [hget]
      show Assoc.get? (o, n) (Assoc.insert (o, m) v s.locals) = _
      rw [Assoc.get?_insert]
      simp only [Prod.mk.injEq, true_and]
      rfl
    have hglobal : (s.get o m).2.getGlobal n = s.getGlobal n := by rw [hget]; rfl
    rw [inMemory_eq, hlocal, hglobal]
    by_cases h : n = m
    · rw [if_pos h, h, hm, hl]
      rfl
    · rw [if_neg h, inMemory_eq]
  · have hlocal : (s.get o m).2.getLocal o n = s.getLocal o n := by rw [hget]; rfl
    have hglobal : (s.get o m).2.getGlobal n = if n = m then some v else s.getGlobal n := by
      rw [hget]
      exact Assoc.get?_insert n m v s.globals
    rw [inMemory_eq, hlocal, hglobal]
    by_cases h : n = m
    · rw [if_pos h, h, hm, hl, hg, (inMemory_eq_none_iff.mp hm).1]
      rfl
    · rw [if_neg h, inMemory_eq]
  · rw [hget]

/-- The values that names have for an owner. -/
def reads (s : Store) (o : Owner) (n : String) : Option String := (s.get o n).1

/-- **A store into which an owner has only looked:** the owner reads what it read, the registry is
the same, and what is new in memory is the value that the registry has there. -/
structure Remembers (o : Owner) (s s' : Store) : Prop where
  reads : s'.reads o = s.reads o
  registry : s'.registry = s.registry
  globals : ∀ n, s'.getGlobal n = s.getGlobal n ∨
    s.getGlobal n = none ∧ s'.getGlobal n = s.rowValue (globalKey n)
  locals : ∀ p n, s'.getLocal p n = s.getLocal p n ∨
    s.getLocal p n = none ∧ s'.getLocal p n = s.rowValue (localKey p n)

namespace Remembers

variable {o : Owner} {s m s' : Store}

theorem refl (o : Owner) (s : Store) : Remembers o s s :=
  ⟨rfl, rfl, fun _ => .inl rfl, fun _ _ => .inl rfl⟩

/-- Looking up changes no row of the registry. -/
theorem rowValue (h : Remembers o s s') (k : RowKey) : s'.rowValue k = s.rowValue k := by
  unfold Store.rowValue
  rw [h.registry]

/-- What was remembered once is remembered on. -/
theorem trans (h : Remembers o s m) (h' : Remembers o m s') : Remembers o s s' := by
  have hvalue {old mid new row : Option String} (hmid : mid = old ∨ old = none ∧ mid = row)
      (hnew : new = mid ∨ mid = none ∧ new = row) : new = old ∨ old = none ∧ new = row := by
    obtain rfl | ⟨rfl, rfl⟩ := hmid
    · exact hnew
    · obtain rfl | ⟨-, rfl⟩ := hnew <;> exact .inr ⟨rfl, rfl⟩
  refine ⟨h'.reads.trans h.reads, h'.registry.trans h.registry, fun n => ?_, fun p n => ?_⟩
  · exact hvalue (h.globals n) (h.rowValue (globalKey n) ▸ h'.globals n)
  · exact hvalue (h.locals p n) (h.rowValue (localKey p n) ▸ h'.locals p n)

end Remembers

/-- **A look-up leaves all that is read as it was:** at most the value that was found is kept. -/
theorem remembers_get (s : Store) (o : Owner) (n : String) : Remembers o s (s.get o n).2 := by
  refine ⟨funext fun m => get_get s o n m, get_registry s o n, fun m => ?_, fun p m => ?_⟩
  · rw [getGlobal_after_get]
    by_cases h : m = n ∧ s.inMemory o n = none ∧ s.rowValue (localKey o n) = none
    · rw [if_pos h]
      obtain ⟨rfl, hm, -⟩ := h
      have hnone := (inMemory_eq_none_iff.mp hm).2
      rw [hnone]
      exact .inr ⟨rfl, Option.or_none⟩
    · rw [if_neg h]
      exact .inl rfl
  · rw [getLocal_after_get]
    by_cases h : (p = o ∧ m = n) ∧ s.inMemory o n = none
    · rw [if_pos h]
      obtain ⟨⟨rfl, rfl⟩, hm⟩ := h
      have hnone := (inMemory_eq_none_iff.mp hm).1
      rw [hnone]
      exact .inr ⟨rfl, Option.or_none⟩
    · rw [if_neg h]
      exact .inl rfl

/-! ## §3. Functions that only look. -/

/-- **A function that only looks into a store** through the scope of an owner.  Its result is what
`v` makes of the values that the owner reads. -/
structure Looks (o : Owner) {α : Type} (f : Store → α × Store)
    (v : (String → Option String) → α) : Prop where
  value : ∀ s, (f s).1 = v (s.reads o)
  remembers : ∀ s, Remembers o s (f s).2

namespace Looks

variable {o : Owner} {α β : Type} {f : Store → α × Store} {v : (String → Option String) → α}

theorem give (a : α) : Looks o (fun s => (a, s)) fun _ => a := ⟨fun _ => rfl, Remembers.refl o⟩

/-- One look-up gives what is read under the name. -/
theorem get (n : String) : Looks o (fun s => s.get o n) fun g => g n :=
  ⟨fun _ => rfl, fun s => remembers_get s o n⟩

/-- **Two of them in a row:** the second reads what the first read. -/
theorem bind (hf : Looks o f v) {g : α → Store → β × Store}
    {w : α → (String → Option String) → β} (hg : ∀ a, Looks o (g a) (w a)) :
    Looks o (fun s => g (f s).1 (f s).2) fun r => w (v r) r where
  value s := by
    rw [(hg _).value, hf.value, (hf.remembers s).reads]
  remembers s := (hf.remembers s).trans ((hg _).remembers _)

theorem map (hf : Looks o f v) (g : α → β) :
    Looks o (fun s => (g (f s).1, (f s).2)) fun r => g (v r) :=
  hf.bind fun a => give (g a)

end Looks

/-! ## §4. Texts and documents. -/

open Template (fillBy injectBy injectJsonBy injectItemsBy injectMembersBy)

/-- **A text is filled with the values that are read at first,** though each look-up may change the
store. -/
theorem looks_fill (o : Owner) (ps : List Template.Piece) :
    Looks o (fill o ps) fun g => fillBy g ps := by
  induction ps with
  | nil => exact .give []
  | cons p rest ih =>
    cases p with
    | char c => exact ih.map fun cs => c :: cs
    | hole name => exact (Looks.get name).bind fun v => ih.map fun cs => (v.getD "").toList ++ cs

/-- **A text is filled with what its owner reads.** -/
theorem looks_inject (o : Owner) (text : String) :
    Looks o (fun s => s.inject o text) fun g => injectBy g text :=
  (looks_fill o (Template.pieces text)).map String.ofList

mutual
/-- **A document is filled with what its owner reads.** -/
theorem looks_injectJson (o : Owner) :
    ∀ v : Json, Looks o (injectJson o v) fun g => injectJsonBy g v
  | .str t => (looks_inject o t).map Json.str
  | .arr xs => (looks_injectItems o xs).map Json.arr
  | .obj ms => (looks_injectMembers o ms).map Json.ofMembers
  | .null => .give Json.null
  | .bool b => .give (Json.bool b)
  | .num n => .give (Json.num n)

theorem looks_injectItems (o : Owner) :
    ∀ xs : List Json, Looks o (injectItems o xs) fun g => injectItemsBy g xs
  | [] => .give []
  | x :: rest =>
    (looks_injectJson o x).bind fun x => (looks_injectItems o rest).map fun xs => x :: xs

theorem looks_injectMembers (o : Owner) :
    ∀ ms : List (String × Json), Looks o (injectMembers o ms) fun g => injectMembersBy g ms
  | [] => .give []
  | (k, v) :: rest =>
    (looks_inject o k).bind fun k => (looks_injectJson o v).bind fun v =>
      (looks_injectMembers o rest).map fun ms => (k, v) :: ms
end

end Store

end SuiteRunner

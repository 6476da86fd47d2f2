/-!
  SuiteRunner.Text.SortedMap
  ────────────────────────────────
  **TEXTS KEPT UNDER SORTED KEYS.**

  A `TextMap` holds one text under each of its keys, the keys in ascending order of their code
  points, which is the order of their UTF-8 bytes.  The order is part of the type, so two maps
  with the same members are equal.
-/

namespace SuiteRunner

/-- Texts under keys in strictly ascending order. -/
structure TextMap where
  entries : List (String × String)
  sorted : entries.Pairwise (fun a b => a.1 < b.1)
  deriving DecidableEq

namespace TextMap

/-- The map without members. -/
def empty : TextMap := ⟨[], List.Pairwise.nil⟩

instance : Inhabited TextMap := ⟨empty⟩

/-- Put a text under a key in an ascending list. -/
def insertEntry (k v : String) : List (String × String) → List (String × String)
  | [] => [(k, v)]
  | (j, w) :: rest =>
    if k < j then (k, v) :: (j, w) :: rest
    else if j < k then (j, w) :: insertEntry k v rest
    else (k, v) :: rest

/-- What an insertion leaves in a list: the new entry and old ones. -/
theorem mem_insertEntry {k v : String} {e : String × String} :
    ∀ {es : List (String × String)}, e ∈ insertEntry k v es → e = (k, v) ∨ e ∈ es
  | [], h => by simpa [insertEntry] using h
  | (j, w) :: rest, h => by
    unfold insertEntry at h
    split at h
    · simpa using h
    · split at h
      · rcases List.mem_cons.1 h with h | h
        · exact Or.inr (by simp [h])
        · rcases mem_insertEntry h with h | h
          · exact Or.inl h
          · exact Or.inr (List.mem_cons_of_mem _ h)
      · rcases List.mem_cons.1 h with h | h
        · exact Or.inl h
        · exact Or.inr (List.mem_cons_of_mem _ h)

/-- **Insertion keeps the keys ascending.** -/
theorem sorted_insertEntry (k v : String) :
    ∀ {es : List (String × String)}, es.Pairwise (fun a b => a.1 < b.1) →
      (insertEntry k v es).Pairwise (fun a b => a.1 < b.1)
  | [], _ => by simp [insertEntry]
  | (j, w) :: rest, h => by
    have hj : ∀ e ∈ rest, j < e.1 := fun e he => (List.pairwise_cons.1 h).1 e he
    have hr := (List.pairwise_cons.1 h).2
    unfold insertEntry
    split
    · rename_i hk
      refine List.pairwise_cons.2 ⟨fun e he => ?_, h⟩
      rcases List.mem_cons.1 he with he | he
      · simpa [he] using hk
      · exact String.lt_trans hk (hj e he)
    · rename_i hk
      split
      · rename_i hk'
        refine List.pairwise_cons.2 ⟨fun e he => ?_, sorted_insertEntry k v hr⟩
        rcases mem_insertEntry he with he | he
        · simpa [he] using hk'
        · exact hj e he
      · rename_i hk'
        have heq : k = j := String.le_antisymm (String.not_lt.1 hk') (String.not_lt.1 hk)
        subst heq
        exact List.pairwise_cons.2 ⟨fun e he => hj e he, hr⟩

/-- Put a text under a key, in the place of an old one if there is one. -/
def insert (m : TextMap) (k v : String) : TextMap :=
  ⟨insertEntry k v m.entries, sorted_insertEntry k v m.sorted⟩

/-- The map that results from inserting pairs one after another. -/
def ofList (pairs : List (String × String)) : TextMap :=
  pairs.foldl (fun m (k, v) => m.insert k v) empty

/-- The text under a key. -/
def get? (m : TextMap) (k : String) : Option String :=
  (m.entries.find? fun e => e.1 == k).map Prod.snd

/-- The keys, ascending. -/
def keys (m : TextMap) : List String := m.entries.map Prod.fst

/-- Whether the map has no members. -/
def isEmpty (m : TextMap) : Bool := m.entries.isEmpty

end TextMap

end SuiteRunner

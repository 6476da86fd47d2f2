import Mathlib.Data.List.Induction
import SuiteRunner.Text.SortedMap

/-!
  SuiteRunner.Proofs.Text.SortedMaps
  ────────────────────────────────
  **WHAT IS IN A MAP AFTER INSERTIONS.**

  An insertion takes the place of what stood under its key, so of pairs inserted one after another
  the last one of each key stays:

    • `mem_insert_iff` — the members after one insertion,
    • `mem_ofList_iff` — the members after a list of insertions.
-/

namespace SuiteRunner

namespace TextMap

theorem mem_insertEntry_iff {k v : String} {e : String × String} {es : List (String × String)}
    (hsorted : es.Pairwise fun a b => a.1 < b.1) :
    e ∈ insertEntry k v es ↔ e = (k, v) ∨ (e ∈ es ∧ e.1 ≠ k) := by
  induction es with
  | nil => simp [insertEntry]
  | cons head rest ih =>
    obtain ⟨j, w⟩ := head
    obtain ⟨hhead, hrest⟩ := List.pairwise_cons.mp hsorted
    unfold insertEntry
    by_cases hkj : k < j
    · -- every key of the old list is greater
      have hgreater : ∀ e ∈ (j, w) :: rest, e.1 ≠ k := by
        intro e he heq
        rcases List.mem_cons.mp he with rfl | he
        · exact String.lt_irrefl k (heq ▸ hkj)
        · exact String.lt_irrefl k (String.lt_trans hkj (heq ▸ hhead e he))
      rw [if_pos hkj, List.mem_cons]
      exact or_congr_right ⟨fun he => ⟨he, hgreater e he⟩, And.left⟩
    · rw [if_neg hkj]
      by_cases hjk : j < k
      · -- the head stays, and the entry goes further back
        have hj : ((j, w) : String × String).1 ≠ k := fun heq =>
          String.lt_irrefl k (heq ▸ hjk)
        rw [if_pos hjk, List.mem_cons, ih hrest, List.mem_cons]
        constructor
        · rintro (rfl | rfl | he)
          · exact .inr ⟨.inl rfl, hj⟩
          · exact .inl rfl
          · exact .inr ⟨.inr he.1, he.2⟩
        · rintro (rfl | ⟨rfl | he, hne⟩)
          · exact .inr (.inl rfl)
          · exact .inl rfl
          · exact .inr (.inr ⟨he, hne⟩)
      · -- the key is there: its entry is replaced, and it has no other
        obtain rfl : k = j :=
          String.le_antisymm (String.not_lt.mp hjk) (String.not_lt.mp hkj)
        rw [if_neg hjk, List.mem_cons, List.mem_cons]
        constructor
        · rintro (rfl | he)
          · exact .inl rfl
          · refine .inr ⟨.inr he, fun heq => ?_⟩
            exact String.lt_irrefl k (heq ▸ hhead e he)
        · rintro (rfl | ⟨rfl | he, hne⟩)
          · exact .inl rfl
          · exact absurd rfl hne
          · exact .inr he

/-- **An insertion takes the place of what stood under its key.** -/
theorem mem_insert_iff {m : TextMap} {k v : String} {e : String × String} :
    e ∈ (m.insert k v).entries ↔ e = (k, v) ∨ (e ∈ m.entries ∧ e.1 ≠ k) :=
  mem_insertEntry_iff m.sorted

/-- **Of pairs inserted one after another the last one of each key stays.** -/
theorem mem_ofList_iff {pairs : List (String × String)} {e : String × String} :
    e ∈ (ofList pairs).entries ↔
      ∃ before after, pairs = before ++ e :: after ∧ ∀ p ∈ after, p.1 ≠ e.1 := by
  -- from the end, since the last pair of a key is the one that stays
  induction pairs using List.reverseRecOn with
  | nil => simp [ofList, empty]
  | append_singleton pairs p ih =>
    have hinsert : ofList (pairs ++ [p]) = (ofList pairs).insert p.1 p.2 := by
      unfold ofList
      rw [List.foldl_append]
      rfl
    rw [hinsert, mem_insert_iff, ih]
    constructor
    · rintro (rfl | ⟨⟨before, after, rfl, hafter⟩, hne⟩)
      · exact ⟨pairs, [], rfl, by simp⟩
      · refine ⟨before, after ++ [p], by simp, ?_⟩
        intro q hq
        rcases List.mem_append.mp hq with hq | hq
        · exact hafter q hq
        · rw [List.mem_singleton.mp hq]
          exact hne.symm
    · rintro ⟨before, after, heq, hafter⟩
      rcases List.eq_nil_or_concat after with rfl | ⟨after, q, rfl⟩
      · obtain ⟨-, hlast⟩ := List.append_inj' heq rfl
        exact .inl (List.singleton_inj.mp hlast).symm
      · rw [List.concat_eq_append, ← List.cons_append, ← List.append_assoc] at heq
        obtain ⟨rfl, hlast⟩ := List.append_inj' heq rfl
        obtain rfl : p = q := List.singleton_inj.mp hlast
        rw [List.concat_eq_append] at hafter
        refine .inr ⟨⟨before, after, rfl, fun r hr => hafter r (List.mem_append_left _ hr)⟩, ?_⟩
        exact (hafter p (List.mem_append_right _ List.mem_cons_self)).symm

end TextMap

end SuiteRunner

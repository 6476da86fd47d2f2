import SuiteRunner.Proofs.Json.Decoding
import SuiteRunner.Suite.Document

/-!
  SuiteRunner.Proofs.Json.Values
  ────────────────────────────────
  **WHAT DECODERS YIELD, AND WHICH VALUES ARE READ BACK.**

  Two questions are asked of a decoder.  What is true of every value that it yields, wherever the
  document comes from (`Yields`)?  And which values does it read back from the documents that are
  written of them (`ReadsBack`)?  This module answers both for the decoders of documents, numbers,
  words, lists, maps and records:

    • `Reading.proper_toJson` — in a document that was read, no object has a key twice,
    • `Json.toJson_ofJson` — such a document is read as it is,
    • `yields_record` — what every field keeps is true of the record,
    • `readsBack_list`, `readsBack_textMap`, … — one lemma for each kind of decoder.
-/

namespace SuiteRunner

/-! ## §1. Documents. -/

namespace Json

mutual
/-- A document in which no object has a key twice. -/
def Proper : Json → Prop
  | .arr xs => ProperItems xs
  | .obj ms => (ms.map Prod.fst).Nodup ∧ ProperMembers ms
  | _ => True

/-- All items are proper. -/
def ProperItems : List Json → Prop
  | [] => True
  | x :: rest => x.Proper ∧ ProperItems rest

/-- All values of members are proper. -/
def ProperMembers : List (String × Json) → Prop
  | [] => True
  | (_, v) :: rest => v.Proper ∧ ProperMembers rest
end

/-- The keys after a member was put into a list. -/
theorem keys_insertMember (k : String) (v : Json) (ms : List (String × Json)) :
    (insertMember k v ms).map Prod.fst =
      if k ∈ ms.map Prod.fst then ms.map Prod.fst else ms.map Prod.fst ++ [k] := by
  induction ms with
  | nil => rfl
  | cons m ms ih =>
    obtain ⟨j, w⟩ := m
    unfold insertMember
    by_cases hj : j = k
    · rw [if_pos hj, hj, List.map_cons, List.map_cons, if_pos List.mem_cons_self]
    · rw [if_neg hj, List.map_cons, List.map_cons, ih]
      by_cases hk : k ∈ ms.map Prod.fst
      · rw [if_pos hk, if_pos (List.mem_cons_of_mem j hk)]
      · have hnew : k ∉ j :: ms.map Prod.fst := by
          rw [List.mem_cons]
          rintro (rfl | h)
          · exact hj rfl
          · exact hk h
        rw [if_neg hk, if_neg hnew]
        rfl

/-- A member that is put in is proper if its value is. -/
theorem properMembers_insertMember {k : String} {v : Json} {ms : List (String × Json)}
    (hv : v.Proper) (hms : ProperMembers ms) : ProperMembers (insertMember k v ms) := by
  induction ms with
  | nil => exact ⟨hv, trivial⟩
  | cons m ms ih =>
    obtain ⟨j, w⟩ := m
    obtain ⟨hw, hrest⟩ := hms
    unfold insertMember
    by_cases hj : j = k
    · rw [if_pos hj]
      exact ⟨hv, hrest⟩
    · rw [if_neg hj]
      exact ⟨hw, ih hrest⟩

/-- **The object that is made of members one after another has no key twice.** -/
theorem proper_ofMembers {ms : List (String × Json)} (h : ProperMembers ms) :
    (ofMembers ms).Proper := by
  suffices ∀ acc : List (String × Json), (acc.map Prod.fst).Nodup → ProperMembers acc →
      (obj (ms.foldl (fun ms m => insertMember m.1 m.2 ms) acc)).Proper from
    this [] List.nodup_nil trivial
  -- on the members that are still to be put in
  induction ms with
  | nil => exact fun acc hkeys hacc => ⟨hkeys, hacc⟩
  | cons m ms ih =>
    obtain ⟨k, v⟩ := m
    obtain ⟨hv, hrest⟩ := h
    intro acc hkeys hacc
    refine ih hrest (insertMember k v acc) ?_ (properMembers_insertMember hv hacc)
    rw [keys_insertMember]
    by_cases hk : k ∈ acc.map Prod.fst
    · rw [if_pos hk]
      exact hkeys
    · rw [if_neg hk, List.nodup_append]
      refine ⟨hkeys, List.nodup_cons.mpr ⟨List.not_mem_nil, List.nodup_nil⟩, ?_⟩
      intro a ha b hb hab
      rw [List.mem_singleton] at hb
      exact hk (hb ▸ hab ▸ ha)

/-- A member with a key of its own is put at the end. -/
theorem insertMember_new {k : String} (v : Json) {ms : List (String × Json)}
    (hk : k ∉ ms.map Prod.fst) : insertMember k v ms = ms ++ [(k, v)] := by
  induction ms with
  | nil => rfl
  | cons m ms ih =>
    obtain ⟨j, w⟩ := m
    rw [List.map_cons, List.mem_cons, not_or] at hk
    unfold insertMember
    rw [if_neg (Ne.symm hk.1), ih hk.2]
    rfl

/-- Members with keys of their own are the members of the object that is made of them. -/
theorem ofMembers_of_nodup {ms : List (String × Json)} (h : (ms.map Prod.fst).Nodup) :
    ofMembers ms = .obj ms := by
  suffices ∀ acc : List (String × Json), ((acc ++ ms).map Prod.fst).Nodup →
      ms.foldl (fun ms m => insertMember m.1 m.2 ms) acc = acc ++ ms from
    congrArg obj (this [] h)
  clear h
  induction ms with
  | nil => exact fun acc _ => (List.append_nil acc).symm
  | cons m ms ih =>
    obtain ⟨k, v⟩ := m
    intro acc hnodup
    have hk : k ∉ acc.map Prod.fst := by
      rw [List.map_append, List.nodup_append] at hnodup
      exact fun hmem => hnodup.2.2 k hmem k List.mem_cons_self rfl
    have hsplit : acc ++ (k, v) :: ms = (acc ++ [(k, v)]) ++ ms := by simp
    rw [hsplit] at hnodup ⊢
    show ms.foldl _ (insertMember k v acc) = _
    rw [insertMember_new v hk]
    exact ih _ hnodup

end Json

namespace Reading

open Json (Proper ProperItems ProperMembers)

mutual
/-- **A document that was read is proper.** -/
theorem proper_toJson : ∀ (r : Reading) (depth : Option Nat) (v : Json),
    r.toJson depth = .ok v → v.Proper
  | .null, _, _, h => by
    cases h
    trivial
  | .bool _, _, _, h => by
    cases h
    trivial
  | .num n, _, _, h => by
    obtain ⟨n, -, rfl⟩ := map_eq_ok_iff.mp h
    trivial
  | .str s, _, _, h => by
    obtain ⟨s, -, rfl⟩ := map_eq_ok_iff.mp h
    trivial
  | .broken _, _, _, h => by cases h
  -- only arrays and objects have parts
  | .arr items ending, depth, v, h => by
    obtain ⟨depth', -, h⟩ := bind_eq_ok_iff.mp h
    obtain ⟨xs, hxs, h⟩ := bind_eq_ok_iff.mp h
    obtain ⟨-, -, h⟩ := bind_eq_ok_iff.mp h
    cases h
    exact properItems_toItems items depth' xs hxs
  | .obj members ending, depth, v, h => by
    obtain ⟨depth', -, h⟩ := bind_eq_ok_iff.mp h
    obtain ⟨ms, hms, h⟩ := bind_eq_ok_iff.mp h
    obtain ⟨-, -, h⟩ := bind_eq_ok_iff.mp h
    cases h
    exact Json.proper_ofMembers (properMembers_toMembers members depth' ms hms)

/-- The items that are read are proper, each in its turn. -/
theorem properItems_toItems : ∀ (rs : List Reading) (depth : Option Nat) (xs : List Json),
    toItems depth rs = .ok xs → ProperItems xs
  | [], _, _, h => by
    cases h
    trivial
  | r :: rest, depth, _, h => by
    obtain ⟨x, hx, h⟩ := bind_eq_ok_iff.mp h
    obtain ⟨xs, hxs, h⟩ := bind_eq_ok_iff.mp h
    cases h
    exact ⟨proper_toJson r depth x hx, properItems_toItems rest depth xs hxs⟩

/-- The members that are read are proper: a key that comes again replaces the value it had. -/
theorem properMembers_toMembers :
    ∀ (rs : List (Except SyntaxError String × Reading)) (depth : Option Nat)
      (ms : List (String × Json)), toMembers depth rs = .ok ms → ProperMembers ms
  | [], _, _, h => by
    cases h
    trivial
  | (key, r) :: rest, depth, _, h => by
    obtain ⟨k, -, h⟩ := bind_eq_ok_iff.mp h
    obtain ⟨v, hv, h⟩ := bind_eq_ok_iff.mp h
    obtain ⟨ms, hms, h⟩ := bind_eq_ok_iff.mp h
    cases h
    exact ⟨proper_toJson r depth v hv, properMembers_toMembers rest depth ms hms⟩
end

mutual
/-- **A proper document is read as it is.** -/
theorem toJson_ofJson : ∀ v : Json, v.Proper → (ofJson v).toJson none = .ok v
  | .null, _ => rfl
  | .bool _, _ => rfl
  | .num _, _ => rfl
  | .str _, _ => rfl
  | .arr xs, h => by
    show (toItems none (ofItems xs) >>= fun xs => Except.ok (Json.arr xs)) = _
    rw [toItems_ofItems xs h]
    rfl
  | .obj ms, h => by
    show (toMembers none (ofMembers ms) >>= fun ms => Except.ok (Json.ofMembers ms)) = _
    rw [toMembers_ofMembers ms h.2, ok_bind, Json.ofMembers_of_nodup h.1]

/-- Items are read as they are. -/
theorem toItems_ofItems : ∀ xs : List Json, ProperItems xs → toItems none (ofItems xs) = .ok xs
  | [], _ => rfl
  | x :: rest, h => by
    show (toJson none (ofJson x) >>= fun x => toItems none (ofItems rest) >>= fun xs =>
      Except.ok (x :: xs)) = _
    rw [toJson_ofJson x h.1, ok_bind, toItems_ofItems rest h.2]
    rfl

/-- Members are read as they are, since no key comes again. -/
theorem toMembers_ofMembers : ∀ ms : List (String × Json), ProperMembers ms →
    toMembers none (ofMembers ms) = .ok ms
  | [], _ => rfl
  | (k, v) :: rest, h => by
    show (toJson none (ofJson v) >>= fun v => toMembers none (ofMembers rest) >>= fun ms =>
      Except.ok ((k, v) :: ms)) = _
    rw [toJson_ofJson v h.1, ok_bind, toMembers_ofMembers rest h.2]
    rfl
end

end Reading

namespace Decode

open Json (ProperMembers)

variable {α σ : Type}

/-! ## §2. What decoders yield. -/

/-- **All that a decoder yields,** from any document in any place, is of a kind. -/
def Yields (d : Decoder α) (Q : α → Prop) : Prop := ∀ p r a, d p r = .ok a → Q a

/-- Nothing else is said of what a decoder yields. -/
theorem yields_any (d : Decoder α) : Yields d fun _ => True := fun _ _ _ _ => trivial

/-- A value of another type is not read. -/
theorem mismatch_ne_ok {expected : String} {r : Reading} {a : α} :
    mismatch expected r ≠ .ok a := by
  intro h
  obtain ⟨_, -, h⟩ := bind_eq_ok_iff.mp h
  cases h

theorem formed_eq_ok {x : Except SyntaxError α} {a : α} (h : formed x = .ok a) : x = .ok a := by
  cases x with
  | ok b =>
    cases h
    rfl
  | error e => cases h

/-- **Whatever is read as a document** has no key twice in an object. -/
theorem yields_json : Yields json Json.Proper := by
  intro p r v h
  exact Reading.proper_toJson r p.depth v (formed_eq_ok h)

/-- What is not missing is what the reader gives. -/
theorem yields_optional {d : Decoder α} {Q : α → Prop} (hd : Yields d Q) :
    Yields (optional d) fun a? => ∀ a, a? = some a → Q a := by
  rintro p r a? h a rfl
  unfold optional at h
  split at h
  · cases h
  · obtain ⟨b, hb, heq⟩ := map_eq_ok_iff.mp h
    cases heq
    exact hd p _ a hb

/-- A document that may be missing is not null if it is there. -/
theorem yields_optional_json :
    Yields (optional json) fun v? => ∀ v, v? = some v → v.Proper ∧ v ≠ .null := by
  rintro p r v? h v rfl
  refine ⟨yields_optional yields_json p r _ h v rfl, ?_⟩
  rintro rfl
  unfold optional at h
  split at h
  · cases h
  · rename_i hnull
    obtain ⟨v, hv, heq⟩ := map_eq_ok_iff.mp h
    cases heq
    replace hv := formed_eq_ok hv
    -- of the readings only that of null has the value null
    cases r with
    | null => exact hnull rfl
    | bool b => cases hv
    | num n =>
      obtain ⟨_, -, h⟩ := map_eq_ok_iff.mp hv
      cases h
    | str s =>
      obtain ⟨_, -, h⟩ := map_eq_ok_iff.mp hv
      cases h
    | broken stop => cases hv
    | arr rs ending =>
      obtain ⟨_, -, hv⟩ := bind_eq_ok_iff.mp hv
      obtain ⟨_, -, hv⟩ := bind_eq_ok_iff.mp hv
      obtain ⟨_, -, hv⟩ := bind_eq_ok_iff.mp hv
      cases hv
    | obj ms ending =>
      obtain ⟨_, -, hv⟩ := bind_eq_ok_iff.mp hv
      obtain ⟨_, -, hv⟩ := bind_eq_ok_iff.mp hv
      obtain ⟨_, -, hv⟩ := bind_eq_ok_iff.mp hv
      cases hv

/-- An integer is read within its bounds. -/
theorem yields_integer (lo hi : Int) (type : String) :
    Yields (integer lo hi type) fun n => lo ≤ n ∧ n ≤ hi := by
  intro p r n h
  unfold integer at h
  split at h
  · split at h
    · next hn =>
      cases h
      exact hn
    · cases h
  · exact absurd h mismatch_ne_ok

theorem yields_int64 :
    Yields int64 fun n => -0x8000000000000000 ≤ n ∧ n ≤ 0x7fffffffffffffff :=
  yields_integer _ _ _

theorem yields_nat32 : Yields nat32 fun n => n ≤ 0xffffffff := by
  intro p r n h
  obtain ⟨i, hi, rfl⟩ := map_eq_ok_iff.mp h
  obtain ⟨hlow, hhigh⟩ := yields_integer _ _ _ p r i hi
  omega

/-- Items are read one by one, by one reader. -/
theorem yields_items {d : Decoder α} {Q : α → Prop} (hd : Yields d Q) {p : Place}
    {rs : List Reading} {as_ : List α} (h : items d p rs = .ok as_) : ∀ a ∈ as_, Q a := by
  induction rs generalizing as_ with
  | nil =>
    cases h
    exact fun a ha => absurd ha List.not_mem_nil
  | cons r rs ih =>
    obtain ⟨a, ha, h⟩ := bind_eq_ok_iff.mp h
    obtain ⟨rest, hrest, h⟩ := bind_eq_ok_iff.mp h
    cases h
    exact List.forall_mem_cons.mpr ⟨hd p r a ha, ih hrest⟩

/-- **A list that is read** has what its reader gives in each place. -/
theorem yields_list {d : Decoder α} {Q : α → Prop} (hd : Yields d Q) :
    Yields (list d) fun as_ => ∀ a ∈ as_, Q a := by
  intro p r as_ h
  unfold list at h
  split at h
  · obtain ⟨_, -, h⟩ := bind_eq_ok_iff.mp h
    obtain ⟨xs, hxs, h⟩ := bind_eq_ok_iff.mp h
    obtain ⟨_, -, h⟩ := bind_eq_ok_iff.mp h
    cases h
    exact yields_items hd hxs
  · exact absurd h mismatch_ne_ok

/-- A map of documents is an object, so it has no key twice. -/
theorem yields_jsonMap : Yields jsonMap fun ms => (Json.obj ms).Proper := by
  intro p r ms h
  unfold jsonMap at h
  split at h
  · obtain ⟨v, hv, h⟩ := bind_eq_ok_iff.mp h
    cases h
    -- the members make up the document that was read, so their keys are all different
    have hproper := yields_json p _ v hv
    obtain ⟨_, -, hv⟩ := bind_eq_ok_iff.mp (formed_eq_ok hv)
    obtain ⟨_, -, hv⟩ := bind_eq_ok_iff.mp hv
    obtain ⟨_, -, hv⟩ := bind_eq_ok_iff.mp hv
    cases hv
    exact hproper
  · exact absurd h mismatch_ne_ok

/-- A word that is known stands in the table of values. -/
theorem wordValue_eq_ok {known : List String} {values : List (String × α)} {s : String} {a : α}
    (h : wordValue known values s = .ok a) : values.lookup s = some a := by
  unfold wordValue at h
  split at h
  · next hs =>
    cases h
    exact hs
  · cases h

/-- A choice between words yields the value of a word, however the word is written. -/
theorem yields_choice {known : List String} {values : List (String × α)} {Q : α → Prop}
    (hvalues : ∀ s a, values.lookup s = some a → Q a) : Yields (choice known values) Q := by
  intro p r a h
  unfold choice at h
  split at h
  · -- the word alone
    obtain ⟨s, -, h⟩ := bind_eq_ok_iff.mp h
    exact hvalues s a (wordValue_eq_ok h)
  · -- the word as a key in a text
    obtain ⟨_, -, h⟩ := bind_eq_ok_iff.mp h
    split at h
    · split at h <;> cases h
    · obtain ⟨b, hb, h⟩ := bind_eq_ok_iff.mp h
      obtain ⟨_, -, h⟩ := bind_eq_ok_iff.mp h
      split at h
      · cases h
      · split at h
        · cases h
          obtain ⟨s, -, hb⟩ := bind_eq_ok_iff.mp hb
          exact hvalues s a (wordValue_eq_ok hb)
        · cases h
  · cases h
  · cases h
  · -- the word as a key in a document at hand
    obtain ⟨b, hb, h⟩ := bind_eq_ok_iff.mp h
    obtain ⟨_, -, h⟩ := bind_eq_ok_iff.mp h
    cases h
    obtain ⟨s, -, hb⟩ := bind_eq_ok_iff.mp hb
    exact hvalues s a (wordValue_eq_ok hb)
  · cases h
  · exact absurd h mismatch_ne_ok

/-! ### Records. -/

/-- Reading a field keeps what is true of the record. -/
def RecordField.Keeps (f : RecordField σ) (P : σ → Prop) : Prop :=
  ∀ p r s t, f.read p r s = .ok t → P s → P t

/-- A field that must be there keeps what putting its value in keeps. -/
theorem keeps_must {d : Decoder α} {Q : α → Prop} {P : σ → Prop} {name : String}
    {put : α → σ → σ} (hd : Yields d Q) (hput : ∀ a s, Q a → P s → P (put a s)) :
    (must name d put).Keeps P := by
  intro p r s t h hs
  obtain ⟨a, ha, rfl⟩ := map_eq_ok_iff.mp h
  exact hput a s (hd p r a ha) hs

/-- A field that may be missing leaves the record as it is if it is. -/
theorem keeps_may {d : Decoder α} {Q : α → Prop} {P : σ → Prop} {name : String}
    {put : α → σ → σ} (hd : Yields d Q) (hput : ∀ a s, Q a → P s → P (put a s)) :
    (may name d put).Keeps P := by
  intro p r s t h hs
  obtain ⟨a, ha, rfl⟩ := map_eq_ok_iff.mp h
  exact hput a s (hd p r a ha) hs

/-- A field of which nothing needs to be known. -/
theorem keeps_other_must {d : Decoder α} {P : σ → Prop} {name : String} {put : α → σ → σ}
    (hput : ∀ a s, P s → P (put a s)) : (must name d put).Keeps P :=
  keeps_must (yields_any d) fun a s _ => hput a s

/-- For a property that does not look at a field, any reader of it will do. -/
theorem keeps_other_may {d : Decoder α} {P : σ → Prop} {name : String} {put : α → σ → σ}
    (hput : ∀ a s, P s → P (put a s)) : (may name d put).Keeps P :=
  keeps_may (yields_any d) fun a s _ => hput a s

section

variable {P : σ → Prop} {fields : List (RecordField σ)}

theorem keeps_nil : ∀ f ∈ ([] : List (RecordField σ)), f.Keeps P :=
  fun _ hf => absurd hf List.not_mem_nil

theorem keeps_cons {f : RecordField σ} (hf : f.Keeps P) (hfields : ∀ g ∈ fields, g.Keeps P) :
    ∀ g ∈ f :: fields, g.Keeps P := List.forall_mem_cons.mpr ⟨hf, hfields⟩

/-- What the fields keep is kept by reading members into them. -/
theorem keeps_fieldsOfMembers (hfields : ∀ f ∈ fields, f.Keeps P) {p : Place}
    {ms : List (Except SyntaxError String × Reading)} {seen seen' : List String} {s t : σ}
    (h : fieldsOfMembers p fields ms seen s = .ok (seen', t)) (hs : P s) : P t := by
  induction ms generalizing seen s with
  | nil =>
    cases h
    exact hs
  | cons m ms ih =>
    obtain ⟨key, r⟩ := m
    obtain ⟨k, -, h⟩ := bind_eq_ok_iff.mp h
    split at h
    · -- no field has this name
      obtain ⟨_, -, h⟩ := bind_eq_ok_iff.mp h
      exact ih h hs
    · rename_i f hfound
      split at h
      · cases h
      · obtain ⟨m, hm, h⟩ := bind_eq_ok_iff.mp h
        exact ih h (hfields f (List.mem_of_find?_eq_some hfound) p r s m hm hs)

/-- Reading items into the fields keeps what each field keeps. -/
theorem keeps_fieldsOfItems (fs : List (RecordField σ)) (hfields : ∀ f ∈ fs, f.Keeps P) {p : Place}
    {ending : Ending} {whole : String} {i : Nat} {rs rest : List Reading} {s t : σ}
    (h : fieldsOfItems p ending whole i fs rs s = .ok (rest, t)) (hs : P s) : P t := by
  induction fs generalizing i rs s with
  | nil =>
    cases rs <;>
      · cases h
        exact hs
  | cons f fs ih =>
    have hrest : ∀ g ∈ fs, g.Keeps P := fun g hg => hfields g (List.mem_cons_of_mem f hg)
    cases rs with
    | nil =>
      obtain ⟨_, -, h⟩ := bind_eq_ok_iff.mp h
      split at h
      · cases h
      · exact ih hrest h hs
    | cons r rs =>
      obtain ⟨m, hm, h⟩ := bind_eq_ok_iff.mp h
      exact ih hrest h (hfields f List.mem_cons_self p r s m hm hs)

/-- A record that is read from an object has what all fields keep. -/
theorem keeps_recordOfMembers (hfields : ∀ f ∈ fields, f.Keeps P) {start s : σ} (hstart : P start)
    {p : Place} {ms : List (Except SyntaxError String × Reading)} {ending : Ending}
    (h : recordOfMembers fields start p ms ending = .ok s) : P s := by
  obtain ⟨⟨seen, t⟩, ht, h⟩ := bind_eq_ok_iff.mp h
  obtain ⟨_, -, h⟩ := bind_eq_ok_iff.mp h
  split at h
  · cases h
  · cases h
    exact keeps_fieldsOfMembers hfields ht hstart

/-- A record that is read from an array has what all fields keep. -/
theorem keeps_recordOfItems (hfields : ∀ f ∈ fields, f.Keeps P) {start s : σ} (hstart : P start)
    {p : Place} {whole : String} {rs : List Reading} {ending : Ending}
    (h : recordOfItems whole fields start p rs ending = .ok s) : P s := by
  obtain ⟨⟨rest, t⟩, ht, h⟩ := bind_eq_ok_iff.mp h
  obtain ⟨_, -, h⟩ := bind_eq_ok_iff.mp h
  cases h
  exact keeps_fieldsOfItems fields hfields ht hstart

/-- **What is true at the start, and kept by every field, is true of every record,** be it read
from an object or from a list. -/
theorem yields_record (name : String) {start : σ} (hstart : P start)
    (hfields : ∀ f ∈ fields, f.Keeps P) : Yields (record name fields start) P := by
  intro p r s h
  unfold record at h
  split at h
  · obtain ⟨_, -, h⟩ := bind_eq_ok_iff.mp h
    exact keeps_recordOfMembers hfields hstart h
  · obtain ⟨_, -, h⟩ := bind_eq_ok_iff.mp h
    exact keeps_recordOfItems hfields hstart h
  · exact absurd h mismatch_ne_ok

end

/-! ### Tagged records. -/

/-- What is read after a tag is what the reader of that tag gives. -/
theorem yields_tagged {type tag : String} {known : List String}
    {decode : String → Body → Except DecodeError α} {Q : α → Prop}
    (hdecode : ∀ t b a, decode t b = .ok a → Q a) : Yields (tagged type tag known decode) Q := by
  intro p r a h
  unfold tagged at h
  split at h
  · obtain ⟨_, -, h⟩ := bind_eq_ok_iff.mp h
    obtain ⟨⟨t, rest⟩, -, h⟩ := bind_eq_ok_iff.mp h
    obtain ⟨_, -, h⟩ := bind_eq_ok_iff.mp h
    split at h
    · cases h
    · exact hdecode _ _ a h
  · obtain ⟨_, -, h⟩ := bind_eq_ok_iff.mp h
    split at h
    · obtain ⟨_, -, h⟩ := bind_eq_ok_iff.mp h
      cases h
    · obtain ⟨t, -, h⟩ := bind_eq_ok_iff.mp h
      obtain ⟨_, -, h⟩ := bind_eq_ok_iff.mp h
      obtain ⟨_, -, h⟩ := bind_eq_ok_iff.mp h
      exact hdecode _ _ a h
  · exact absurd h mismatch_ne_ok

/-- The fields of a variant are read as those of a record. -/
theorem yields_bodyFields {name : String} {fields : List (RecordField σ)} {start s : σ}
    {P : σ → Prop} (hstart : P start) (hfields : ∀ f ∈ fields, f.Keeps P) {b : Body}
    (h : bodyFields name fields start b = .ok s) : P s := by
  cases b with
  | members ms => exact keeps_recordOfMembers hfields hstart h
  | items rs => exact keeps_recordOfItems hfields hstart h

/-! ## §3. Reading back. -/

/-- A place in a document that is at hand and not in a text; nothing limits the depth. -/
structure Place.AtHand (p : Place) : Prop where
  origin : p.origin ≠ .text
  depth : p.depth = none

theorem atHand_asidePlace : asidePlace.AtHand := ⟨by decide, rfl⟩

/-- **A value is read back from the document that is written of it.** -/
def ReadsBack (d : Decoder α) (write : α → Json) (a : α) : Prop :=
  ∀ p : Place, p.AtHand → d p (Reading.ofJson (write a)) = .ok a

section

variable {p : Place}

/-- Nothing limits the depth there, so going down is always allowed. -/
theorem Place.AtHand.down (h : p.AtHand) : p.down = .ok p := by
  obtain ⟨origin, depth⟩ := p
  obtain rfl : depth = none := h.depth
  rfl

/-- What is at hand is not read ahead of its turn. -/
theorem Place.AtHand.setAside (h : p.AtHand) (r : Reading) : setAside p r = .ok () := by
  obtain ⟨origin, depth⟩ := p
  unfold Decode.setAside
  cases origin with
  | text => exact absurd rfl h.origin
  | value => rfl
  | setAside => rfl

end

theorem readsBack_text (s : String) : ReadsBack text .str s := fun _ _ => rfl

theorem readsBack_boolean (b : Bool) : ReadsBack boolean .bool b := fun _ _ => rfl

/-- An integer of 64 bits is read back. -/
theorem readsBack_int64 {n : Int} (h : -0x8000000000000000 ≤ n ∧ n ≤ 0x7fffffffffffffff) :
    ReadsBack int64 Json.ofInt n := fun _ _ => if_pos h

/-- A natural number of 32 bits is read back. -/
theorem readsBack_nat32 {n : Nat} (h : n ≤ 0xffffffff) : ReadsBack nat32 Json.ofNat n := by
  intro p _
  have hfits : (0 : Int) ≤ (n : Int) ∧ (n : Int) ≤ 0xffffffff := by omega
  show (if (0 : Int) ≤ (n : Int) ∧ (n : Int) ≤ 0xffffffff then _ else _ : Except _ Int).map _ = _
  rw [if_pos hfits]
  rfl

/-- **A document is read back** if it has no key twice. -/
theorem readsBack_json {v : Json} (h : v.Proper) : ReadsBack json id v := by
  intro p hp
  unfold json
  rw [hp.depth]
  exact congrArg formed (Reading.toJson_ofJson v h)

/-- A value that may be missing is read back, if what is written of it is not null. -/
theorem readsBack_optional {d : Decoder α} {write : α → Json} {a? : Option α}
    (h : ∀ a, a? = some a → ReadsBack d write a ∧ write a ≠ .null) :
    ReadsBack (optional d) (Json.ofOption write) a? := by
  intro p hp
  cases a? with
  | none => rfl
  | some a =>
    obtain ⟨hback, hnull⟩ := h a rfl
    have hread := hback p hp
    unfold optional
    split
    · next heq =>
      -- null is the reading of null only
      refine absurd ?_ hnull
      cases hwrite : write a <;> rw [Json.ofOption, hwrite] at heq <;> first | rfl | cases heq
    · rw [Json.ofOption, hread]
      rfl

theorem readsBack_optional_text (s : Option String) :
    ReadsBack (optional text) optionalText s :=
  readsBack_optional fun s _ => ⟨readsBack_text s, by simp⟩

/-- A document that may be missing is read back unless it is `null`, which stands for a missing one.
-/
theorem readsBack_optional_json {v : Option Json}
    (h : ∀ u, v = some u → u.Proper ∧ u ≠ .null) : ReadsBack (optional json) optionalJson v := by
  have hwrite : optionalJson v = Json.ofOption id v := by cases v <;> rfl
  intro p hp
  rw [hwrite]
  exact readsBack_optional (fun u hu => ⟨readsBack_json (h u hu).1, (h u hu).2⟩) p hp

/-- A list is read back if each of its items is. -/
theorem readsBack_list {d : Decoder α} {write : α → Json} {as_ : List α}
    (h : ∀ a ∈ as_, ReadsBack d write a) :
    ReadsBack (list d) (fun as_ => .arr (as_.map write)) as_ :=
  fun p hp => list_map hp.down fun a ha => h a ha p hp

theorem readsBack_jsons {vs : List Json} (h : ∀ v ∈ vs, v.Proper) :
    ReadsBack (list json) .arr vs := by
  intro p hp
  have hread := readsBack_list (fun v hv => readsBack_json (h v hv)) p hp
  dsimp only at hread
  rwa [List.map_id] at hread

theorem readsBack_jsonMap {ms : List (String × Json)} (h : (Json.obj ms).Proper) :
    ReadsBack jsonMap .obj ms := by
  intro p hp
  have hread : json p (Reading.ofJson (.obj ms)) = .ok (.obj ms) := readsBack_json h p hp
  show (json p (Reading.ofJson (.obj ms)) >>= fun v => _) = _
  rw [hread]
  rfl

/-- A word of a list is read back if it is found in the list. -/
theorem readsBack_choice {known : List String} {values : List (String × α)} {word : α → String}
    {a : α} (h : values.lookup (word a) = some a) :
    ReadsBack (choice known values) (fun a => .str (word a)) a := by
  intro p hp
  show (Except.ok (word a) >>= wordValue known values) = _
  rw [ok_bind, wordValue, h]

/-! ### Fields and records. -/

/-- A field is read back, and then the fields after it. -/
theorem readInOrder_must {d : Decoder α} {write : α → Json} {a : α} (h : ReadsBack d write a)
    {p : Place} (hp : p.AtHand) {name : String} {put : α → σ → σ} {fs : List (RecordField σ)}
    {rs : List Reading} {s s' : σ} (hrest : readInOrder p fs rs (put a s) = .ok s') :
    readInOrder p (must name d put :: fs) (Reading.ofJson (write a) :: rs) s = .ok s' :=
  readInOrder_cons (read_must (h p hp) name put s) hrest

/-- Fields in their order are read one by one, and each is put into the record. -/
theorem readInOrder_may {d : Decoder α} {write : α → Json} {a : α} (h : ReadsBack d write a)
    {p : Place} (hp : p.AtHand) {name : String} {put : α → σ → σ} {fs : List (RecordField σ)}
    {rs : List Reading} {s s' : σ} (hrest : readInOrder p fs rs (put a s) = .ok s') :
    readInOrder p (may name d put :: fs) (Reading.ofJson (write a) :: rs) s = .ok s' :=
  readInOrder_cons (read_may (h p hp) name put s) hrest

/-- The values of all fields, in their order, are the members of the record. -/
theorem membersInOrder_eq {fields : List (RecordField σ)} {ms : List (String × Json)}
    (hkeys : ms.map Prod.fst = fields.map RecordField.name) :
    membersInOrder fields (ms.map fun m => Reading.ofJson m.2) = Reading.ofMembers ms := by
  induction fields generalizing ms with
  | nil =>
    obtain rfl := List.map_eq_nil_iff.mp hkeys
    rfl
  | cons f fields ih =>
    obtain ⟨m, rest, rfl, hm, hrest⟩ := List.map_eq_cons_iff.mp hkeys
    obtain ⟨k, v⟩ := m
    show (.ok f.name, _) :: membersInOrder fields _ = (.ok k, _) :: Reading.ofMembers rest
    rw [ih hrest, ← hm]

/-- **A record that is written with all its fields in order is read back field by field.** -/
theorem record_written (name : String) {fields : List (RecordField σ)} {start s : σ} {p : Place}
    (hp : p.AtHand) (hnames : (fields.map RecordField.name).Nodup) {ms : List (String × Json)}
    (hkeys : ms.map Prod.fst = fields.map RecordField.name)
    (hread : readInOrder p fields (ms.map fun m => Reading.ofJson m.2) start = .ok s) :
    record name fields start p (Reading.ofJson (.obj ms)) = .ok s := by
  have hlength : (ms.map fun m => Reading.ofJson m.2).length = fields.length := by
    have h := congrArg List.length hkeys
    simpa only [List.length_map] using h
  have hdoc : Reading.ofJson (.obj ms)
      = .obj (membersInOrder fields (ms.map fun m => Reading.ofJson m.2)) .closed := by
    rw [membersInOrder_eq hkeys]
    rfl
  rw [hdoc]
  exact record_inOrder name hp.down hnames hlength hread

/-! ### Tags. -/

section

variable {type tag t key : String} {known : List String}
  {decode : String → Body → Except DecodeError α} {p : Place}

/-- A tag that stands alone. -/
theorem tagged_alone (hp : p.AtHand) (ht : t ∈ known) :
    tagged type tag known decode p (.obj [(.ok tag, .str (.ok t))] .closed)
      = decode t (.members []) := by
  have hword : tagWord known p (.str (.ok t)) = .ok t := by
    unfold tagWord
    exact if_pos (List.contains_iff_mem.mpr ht)
  have hsplit : splitTag tag known p [(.ok tag, .str (.ok t))] none = .ok (some t, []) := by
    show (if tag = tag then tagWord known p (.str (.ok t)) >>= _ else _) = _
    rw [if_pos rfl, hword]
    rfl
  show (p.down >>= fun p => splitTag tag known p [(.ok tag, .str (.ok t))] none >>= _) = _
  rw [hp.down, ok_bind, hsplit]
  rfl

/-- A tag that stands before one other member. -/
theorem tagged_before (hp : p.AtHand) (ht : t ∈ known) (hkey : key ≠ tag) (r : Reading) :
    tagged type tag known decode p (.obj [(.ok tag, .str (.ok t)), (.ok key, r)] .closed)
      = decode t (.members [(.ok key, r)]) := by
  have hword : tagWord known p (.str (.ok t)) = .ok t := by
    unfold tagWord
    exact if_pos (List.contains_iff_mem.mpr ht)
  have hother : splitTag tag known p [(.ok key, r)] (some t) = .ok (some t, [(.ok key, r)]) := by
    show (if key = tag then _ else Decode.setAside p r >>= _) = _
    rw [if_neg hkey, hp.setAside r]
    rfl
  have hsplit : splitTag tag known p [(.ok tag, .str (.ok t)), (.ok key, r)] none
      = .ok (some t, [(.ok key, r)]) := by
    show (if tag = tag then tagWord known p (.str (.ok t)) >>= fun t =>
      splitTag tag known p [(.ok key, r)] (some t) else _) = _
    rw [if_pos rfl, hword, ok_bind, hother]
  show (p.down >>= fun p =>
    splitTag tag known p [(.ok tag, .str (.ok t)), (.ok key, r)] none >>= _) = _
  rw [hp.down, ok_bind, hsplit]
  rfl

end

/-! ### Texts under keys. -/

/-- An entry with a greater key than all others goes to the end. -/
theorem insertEntry_last {k v : String} {es : List (String × String)}
    (h : ∀ e ∈ es, e.1 < k) : TextMap.insertEntry k v es = es ++ [(k, v)] := by
  induction es with
  | nil => rfl
  | cons e es ih =>
    obtain ⟨j, w⟩ := e
    have hj : j < k := h (j, w) List.mem_cons_self
    unfold TextMap.insertEntry
    have hk : ¬ k < j := fun hk => String.lt_irrefl k (String.lt_trans hk hj)
    rw [if_neg hk, if_pos hj,
      ih fun e he => h e (List.mem_cons_of_mem _ he)]
    rfl

/-- Entries in ascending order are put into a map one after another. -/
theorem textMembers_entries (p : Place) (es : List (String × String)) :
    ∀ m n : TextMap, n.entries = m.entries ++ es →
      textMembers p m (Reading.ofMembers (es.map fun (k, v) => (k, .str v))) = .ok n := by
  induction es with
  | nil =>
    intro m n h
    obtain ⟨entries, sorted⟩ := m
    obtain ⟨entries', sorted'⟩ := n
    obtain rfl : entries' = entries := h.trans (List.append_nil entries)
    rfl
  | cons e es ih =>
    obtain ⟨k, v⟩ := e
    intro m n h
    have hlast : ∀ e ∈ m.entries, e.1 < k := by
      intro e he
      have hsorted := n.sorted
      rw [h, List.pairwise_append] at hsorted
      exact hsorted.2.2 e he (k, v) List.mem_cons_self
    show textMembers p (m.insert k v) _ = _
    apply ih
    show n.entries = TextMap.insertEntry k v m.entries ++ es
    rw [insertEntry_last hlast, h, List.append_assoc]
    rfl

/-- A map of texts is read back; its keys are sorted and none comes twice. -/
theorem readsBack_textMap (m : TextMap) : ReadsBack textMap TextMap.toJson m := by
  intro p hp
  show (p.down >>= fun p => textMembers p .empty (Reading.ofMembers (m.entries.map _)) >>= _) = _
  rw [hp.down, ok_bind, textMembers_entries p m.entries .empty m rfl]
  rfl

end Decode

end SuiteRunner

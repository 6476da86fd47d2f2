import Mathlib.Data.List.TakeWhile
import SuiteRunner.Database.Config
import SuiteRunner.Proofs.Json.Numbers

/-!
  SuiteRunner.Proofs.Database.ConnectionText
  ────────────────────────────────
  **WHAT A CONNECTION TEXT SAYS.**

  A connection text is read as keys and values: a key ends at an equals sign and a value at a
  semicolon, except that a value in braces is what stands between them.  The text that is made of a
  configuration holds every setting as it is.  So the settings are read back unless one of them has a
  semicolon in it, or looks like a value in braces, alone or together with others:

    • `Kept.readValue_eq`, `kept_of_fst` — the values that are read as they were written,
    • `AllKept.readPairs_eq`, `allKept_of_told` — and that those of pairs have to be,
    • `allKept_iff` — what this means for the characters of the values,
    • `connectionText_tells_iff` — **when the text that is made of a configuration says what the
      configuration says,**
    • `host_from_password` — and what else it may say.
-/

namespace SuiteRunner

namespace ConnectionText

/-! ## §1. Reading. -/

/-- What stands before the first semicolon, and what follows it. -/
def untilSemicolon (cs : List Char) : List Char × List Char :=
  (cs.takeWhile (· != ';'), (cs.dropWhile (· != ';')).drop 1)

/-- What stands before a closing brace at the end of a value, and what follows the value. -/
def untilBrace? : List Char → Option (List Char × List Char)
  | [] => none
  | '\x7d' :: ';' :: rest => some ([], rest)
  | ['\x7d'] => some ([], [])
  | c :: rest => (untilBrace? rest).map fun (value, after) => (c :: value, after)

/-- **A value, and what follows it:** the text in braces, if it opens with one that is closed before
a semicolon or at the end, or else the text up to the first semicolon. -/
def readValue : List Char → List Char × List Char
  | '\x7b' :: rest => (untilBrace? rest).getD (untilSemicolon ('\x7b' :: rest))
  | cs => untilSemicolon cs

/-- Read pairs; `skip` characters belong to a value that was read, and `key` holds the current key
backwards.  What has no equals sign is no pair. -/
def readFrom : Nat → List Char → List Char → List (String × String)
  | _, _, [] => []
  | skip + 1, key, _ :: rest => readFrom skip key rest
  | 0, key, c :: rest =>
    if c = '=' then
      (String.ofList key.reverse, String.ofList (readValue rest).1)
        :: readFrom (rest.length - (readValue rest).2.length) [] rest
    else if c = ';' then readFrom 0 [] rest
    else readFrom 0 (c :: key) rest

/-- **The pairs of a connection text.** -/
def readPairs (text : List Char) : List (String × String) := readFrom 0 [] text

/-- The values that pairs have for a key. -/
def told (key : String) (pairs : List (String × String)) : List String :=
  (pairs.filter (·.1 == key)).map (·.2)

/-! ## §2. Values. -/

/-- A value without a semicolon ends at the one that follows it. -/
theorem untilSemicolon_eq {v : List Char} (h : ';' ∉ v) (rest : List Char) :
    untilSemicolon (v ++ ';' :: rest) = (v, rest) := by
  have hall : ∀ c ∈ v, (c != ';') = true := fun c hc => bne_iff_ne.mpr fun heq => h (heq ▸ hc)
  unfold untilSemicolon
  rw [List.takeWhile_append_of_pos hall, List.dropWhile_append_of_pos hall,
    List.takeWhile_cons_of_neg (by decide), List.dropWhile_cons_of_neg (by decide), List.append_nil]
  rfl

/-- What ends at the first semicolon has none. -/
theorem semicolon_notMem_of_fst {cs v : List Char} (h : (untilSemicolon cs).1 = v) : ';' ∉ v := by
  subst h
  intro hmem
  have htake : ';' ∈ cs.takeWhile (· != ';') := hmem
  exact absurd (List.mem_takeWhile_imp htake) (by decide)

theorem readValue_brace (rest : List Char) : readValue ('\x7b' :: rest)
    = (untilBrace? rest).getD (untilSemicolon ('\x7b' :: rest)) := rfl

/-- A value that does not open with a brace ends at the first semicolon. -/
theorem readValue_of_head {cs : List Char} (h : cs.head? ≠ some '\x7b') :
    readValue cs = untilSemicolon cs := by
  unfold readValue
  split
  · exact absurd rfl h
  · rfl

/-- A character that is not the last one before a semicolon, or is no brace, closes nothing. -/
theorem untilBrace?_cons {c : Char} {rest : List Char}
    (h : c ≠ '\x7d' ∨ rest ≠ [] ∧ rest.head? ≠ some ';') :
    untilBrace? (c :: rest) = (untilBrace? rest).map fun (value, after) => (c :: value, after) := by
  rw [untilBrace?]
  · rintro more rfl rfl
    obtain hne | ⟨-, hne⟩ := h
    · exact hne rfl
    · exact hne rfl
  · rintro rfl rfl
    obtain hne | ⟨hne, -⟩ := h
    · exact hne rfl
    · exact hne rfl

/-- What is read up to a brace is a beginning. -/
theorem prefix_of_untilBrace? {cs value after : List Char}
    (h : untilBrace? cs = some (value, after)) : value <+: cs := by
  fun_induction untilBrace? cs generalizing value with
  | case1 => cases h
  | case2 rest =>
    cases h
    exact List.nil_prefix
  | case3 =>
    cases h
    exact List.nil_prefix
  | case4 c rest _ _ ih =>
    obtain ⟨⟨v, a⟩, hrest, heq⟩ := Option.map_eq_some_iff.mp h
    cases heq
    exact List.prefix_cons_inj c |>.mpr (ih hrest)

/-- What stands between braces is shorter than the value that they are part of. -/
theorem ne_of_untilBrace? {t rest value after : List Char}
    (h : untilBrace? (t ++ ';' :: rest) = some (value, after)) : value ≠ '\x7b' :: t := by
  rintro rfl
  -- the value would be its own tail and a semicolon, and so have one more of them than it has
  have hprefix := prefix_of_untilBrace? h
  have hsame : '\x7b' :: t = t ++ [';'] := by
    have hother : t ++ [';'] <+: t ++ ';' :: rest := ⟨rest, by simp⟩
    exact (List.prefix_of_prefix_length_le hprefix hother (by simp)).eq_of_length (by simp)
  have hcount := congrArg (List.count ';') hsame
  simp at hcount

/-- **A value is read as it was written** before what follows it: it holds no semicolon, and if it
opens with a brace, no brace after that one closes a value. -/
structure Kept (v rest : List Char) : Prop where
  semicolon : ';' ∉ v
  brace : v.head? = some '\x7b' → untilBrace? (v.tail ++ ';' :: rest) = none

/-- **A value that is kept is read as it was written,** and what follows it is left. -/
theorem Kept.readValue_eq {v rest : List Char} (h : Kept v rest) :
    readValue (v ++ ';' :: rest) = (v, rest) := by
  have hplain := untilSemicolon_eq h.semicolon rest
  cases v with
  | nil => exact hplain
  | cons c t =>
    by_cases hopen : c = '\x7b'
    · subst hopen
      rw [List.cons_append, readValue_brace, ← List.cons_append, hplain]
      exact congrArg (Option.getD · _) (h.brace rfl)
    · have hhead : (c :: t ++ ';' :: rest).head? ≠ some '\x7b' := fun heq =>
        hopen (Option.some.inj heq)
      rw [readValue_of_head hhead]
      exact hplain

/-- No other value is read as it was written. -/
theorem kept_of_fst {v rest : List Char} (h : (readValue (v ++ ';' :: rest)).1 = v) :
    Kept v rest := by
  -- a value that opens with a brace either lost it, or was read as any other
  cases v with
  | nil => exact ⟨List.not_mem_nil, fun hopen => by cases hopen⟩
  | cons c t =>
    by_cases hopen : c = '\x7b'
    · subst hopen
      rw [List.cons_append, readValue_brace] at h
      cases hclosed : untilBrace? (t ++ ';' :: rest) with
      | none =>
        rw [hclosed] at h
        exact ⟨semicolon_notMem_of_fst h, fun _ => hclosed⟩
      | some read =>
        rw [hclosed] at h
        exact absurd h (ne_of_untilBrace? hclosed)
    · have hhead : (c :: t ++ ';' :: rest).head? ≠ some '\x7b' := fun heq =>
        hopen (Option.some.inj heq)
      rw [readValue_of_head hhead] at h
      exact ⟨semicolon_notMem_of_fst h, fun heq => absurd (Option.some.inj heq) hopen⟩

/-! ## §3. Pairs. -/

/-- A pair as it is written. -/
def pairText (p : String × String) : List Char := p.1.toList ++ '=' :: (p.2.toList ++ [';'])

/-- Pairs as they are written. -/
def pairsText (pairs : List (String × String)) : List Char := pairs.flatMap pairText

/-- A pair is a key, an equals sign, a value and a semicolon. -/
theorem pairsText_cons (key value : String) (pairs : List (String × String)) :
    pairsText ((key, value) :: pairs)
      = key.toList ++ '=' :: (value.toList ++ ';' :: pairsText pairs) := by
  unfold pairsText
  rw [List.flatMap_cons]
  simp [pairText]

/-- The characters of a value that was read are passed over. -/
theorem readFrom_skip (key : List Char) (rest : List Char) : ∀ dropped : List Char,
    readFrom dropped.length key (dropped ++ rest) = readFrom 0 key rest
  | [] => rfl
  | _ :: dropped => by
    show readFrom dropped.length key (dropped ++ rest) = _
    exact readFrom_skip key rest dropped

/-- Whether a text may be a key. -/
def IsKey (key : String) : Prop := '=' ∉ key.toList ∧ ';' ∉ key.toList

instance (key : String) : Decidable (IsKey key) :=
  inferInstanceAs (Decidable ('=' ∉ key.toList ∧ ';' ∉ key.toList))

/-- What follows a key is read as a value. -/
theorem readFrom_key {k : List Char} (heq : '=' ∉ k) (hsep : ';' ∉ k) (rest : List Char) :
    ∀ front : List Char, readFrom 0 front (k ++ '=' :: rest)
      = (String.ofList (front.reverse ++ k), String.ofList (readValue rest).1)
        :: readFrom (rest.length - (readValue rest).2.length) [] rest := by
  induction k with
  | nil =>
    intro front
    rw [List.append_nil]
    exact if_pos rfl
  | cons c k ih =>
    intro front
    obtain ⟨hc, hk⟩ := not_or.mp (mt List.mem_cons.mpr heq)
    obtain ⟨hc', hk'⟩ := not_or.mp (mt List.mem_cons.mpr hsep)
    show (if c = '=' then _ else if c = ';' then _
      else readFrom 0 (c :: front) (k ++ '=' :: rest)) = _
    rw [if_neg (Ne.symm hc), if_neg (Ne.symm hc'), ih hk hk', List.reverse_cons, List.append_assoc,
      List.singleton_append]

/-- **The first of several pairs.** -/
theorem readPairs_cons {key : String} (hkey : IsKey key) (rest : List Char) :
    readPairs (key.toList ++ '=' :: rest) = (key, String.ofList (readValue rest).1)
      :: readFrom (rest.length - (readValue rest).2.length) [] rest := by
  unfold readPairs
  rw [readFrom_key hkey.1 hkey.2, List.reverse_nil, List.nil_append, String.ofList_toList]

/-- What follows a value is read on. -/
theorem readPairs_value {key : String} (hkey : IsKey key) {v w rest : List Char}
    (h : readValue (v ++ ';' :: rest) = (w, rest)) :
    readPairs (key.toList ++ '=' :: (v ++ ';' :: rest))
      = (key, String.ofList w) :: readPairs rest := by
  have hlength : (v ++ ';' :: rest).length - rest.length = (v ++ [';']).length := by
    simp only [List.length_append, List.length_cons, List.length_nil]
    omega
  have hsplit : v ++ ';' :: rest = (v ++ [';']) ++ rest := by simp
  rw [readPairs_cons hkey, h, hlength, hsplit, readFrom_skip]
  rfl

/-- The values of pairs are kept where they are written. -/
def AllKept : List (String × String) → Prop
  | [] => True
  | p :: pairs => Kept p.2.toList (pairsText pairs) ∧ AllKept pairs

/-- **Pairs whose values are kept are read as they were written.** -/
theorem AllKept.readPairs_eq {pairs : List (String × String)} (hkeys : ∀ p ∈ pairs, IsKey p.1)
    (h : AllKept pairs) : readPairs (pairsText pairs) = pairs := by
  induction pairs with
  | nil => rfl
  | cons p pairs ih =>
    obtain ⟨key, value⟩ := p
    obtain ⟨hkey, hrest⟩ := List.forall_mem_cons.mp hkeys
    rw [pairsText_cons, readPairs_value hkey h.1.readValue_eq, String.ofList_toList, ih hrest h.2]

theorem told_cons (key k v : String) (pairs : List (String × String)) :
    told key ((k, v) :: pairs) = if k = key then v :: told key pairs else told key pairs := by
  unfold told
  by_cases h : k = key
  · rw [if_pos h, List.filter_cons_of_pos (by simpa using h), List.map_cons]
  · rw [if_neg h, List.filter_cons_of_neg (by simpa using h)]

/-- Pairs say nothing about a key that none of them has. -/
theorem told_of_notMem {key : String} {pairs : List (String × String)}
    (h : key ∉ pairs.map (·.1)) : told key pairs = [] := by
  induction pairs with
  | nil => rfl
  | cons p pairs ih =>
    obtain ⟨hp, hrest⟩ := not_or.mp (mt List.mem_cons.mpr h)
    rw [told_cons, if_neg (Ne.symm hp), ih hrest]

/-- Of different keys each is told once. -/
theorem told_of_nodup {pairs : List (String × String)} (hnodup : (pairs.map (·.1)).Nodup) :
    ∀ p ∈ pairs, told p.1 pairs = [p.2] := by
  induction pairs with
  | nil => simp
  | cons q pairs ih =>
    obtain ⟨key, value⟩ := q
    obtain ⟨hnew, hrest⟩ := List.nodup_cons.mp hnodup
    refine List.forall_mem_cons.mpr ⟨?_, fun p hp => ?_⟩
    · rw [told_cons, if_pos rfl, told_of_notMem hnew]
    · have hne : key ≠ p.1 := fun heq => hnew (List.mem_map.mpr ⟨p, hp, heq.symm⟩)
      rw [told_cons, if_neg hne, ih hrest p hp]

/-- **Values that are told as they were written are kept,** if the others are kept wherever they
stand. -/
theorem allKept_of_told {pairs : List (String × String)} (hkeys : ∀ p ∈ pairs, IsKey p.1)
    (hnodup : (pairs.map (·.1)).Nodup)
    (h : ∀ p ∈ pairs, (∀ rest, Kept p.2.toList rest) ∨
      told p.1 (readPairs (pairsText pairs)) = [p.2]) : AllKept pairs := by
  -- from the front: what is kept there ends where it was written, so the rest is read by itself
  induction pairs with
  | nil => trivial
  | cons p pairs ih =>
    obtain ⟨key, value⟩ := p
    obtain ⟨hkey, hkeys⟩ := List.forall_mem_cons.mp hkeys
    obtain ⟨hnew, hnodup⟩ := List.nodup_cons.mp hnodup
    obtain ⟨hfirst, hrest⟩ := List.forall_mem_cons.mp h
    have hkept : Kept value.toList (pairsText pairs) := by
      obtain hsolid | htold := hfirst
      · exact hsolid _
      · rw [pairsText_cons, readPairs_cons hkey, told_cons, if_pos rfl] at htold
        have hvalue := congrArg String.toList (List.cons.inj htold).1
        rw [String.toList_ofList] at hvalue
        exact kept_of_fst hvalue
    refine ⟨hkept, ih hkeys hnodup fun p hp => (hrest p hp).imp_right fun htold => ?_⟩
    have hne : key ≠ p.1 := fun heq => hnew (List.mem_map.mpr ⟨p, hp, heq.symm⟩)
    rwa [pairsText_cons, readPairs_value hkey hkept.readValue_eq, told_cons, if_neg hne] at htold

/-! ## §4. Braces. -/

/-- A brace closes a value at its end and nowhere else. -/
theorem untilBrace?_eq_none_iff {u rest : List Char} (h : ';' ∉ u) :
    untilBrace? (u ++ ';' :: rest) = none ↔ u.getLast? ≠ some '\x7d' ∧ untilBrace? rest = none := by
  induction u with
  | nil =>
    rw [List.nil_append, untilBrace?_cons (.inl (by decide)), Option.map_eq_none_iff]
    simp
  | cons c u ih =>
    have hu := List.not_mem_of_not_mem_cons h
    cases u with
    | nil =>
      by_cases hc : c = '\x7d'
      · subst hc
        simp [untilBrace?]
      · rw [List.cons_append, untilBrace?_cons (.inl hc), Option.map_eq_none_iff, ih hu]
        simp [hc]
    | cons d u =>
      have hd : d ≠ ';' := fun heq => hu (heq ▸ List.mem_cons_self)
      have hnext : c ≠ '\x7d' ∨ (d :: u ++ ';' :: rest) ≠ [] ∧
          (d :: u ++ ';' :: rest).head? ≠ some ';' :=
        .inr ⟨List.cons_ne_nil _ _, fun heq => hd (Option.some.inj heq)⟩
      rw [List.cons_append, untilBrace?_cons hnext, Option.map_eq_none_iff, ih hu,
        List.getLast?_cons_cons]

/-- In pairs, a brace closes a value that ends with it. -/
theorem untilBrace?_pairsText {pairs : List (String × String)} (hkeys : ∀ p ∈ pairs, IsKey p.1)
    (hvalues : ∀ p ∈ pairs, ';' ∉ p.2.toList) :
    untilBrace? (pairsText pairs) = none ↔ ∀ p ∈ pairs, p.2.toList.getLast? ≠ some '\x7d' := by
  induction pairs with
  | nil => exact iff_of_true rfl (by simp)
  | cons p pairs ih =>
    obtain ⟨key, value⟩ := p
    obtain ⟨hkey, hkeys⟩ := List.forall_mem_cons.mp hkeys
    obtain ⟨hvalue, hvalues⟩ := List.forall_mem_cons.mp hvalues
    have hsplit : pairsText ((key, value) :: pairs)
        = (key.toList ++ '=' :: value.toList) ++ ';' :: pairsText pairs := by
      rw [pairsText_cons]
      simp
    have hplain : ';' ∉ key.toList ++ '=' :: value.toList := by
      simpa using ⟨hkey.2, hvalue⟩
    have hlast : (key.toList ++ '=' :: value.toList).getLast? = some '\x7d'
        ↔ value.toList.getLast? = some '\x7d' := by
      rw [List.getLast?_append, List.getLast?_cons, Option.some_or]
      cases value.toList.getLast? with
      | none => simp
      | some c => simp
    rw [hsplit, untilBrace?_eq_none_iff hplain, ih hkeys hvalues, List.forall_mem_cons, Ne, hlast]

/-- **Values that are not taken for others,** written in this order: none of them holds a semicolon,
and behind a brace that a value opens with, no value ends with one, that value included. -/
def Unquoted : List String → Prop
  | [] => True
  | v :: later => ';' ∉ v.toList ∧
      (v.toList.head? = some '\x7b' → ∀ w ∈ v :: later, w.toList.getLast? ≠ some '\x7d') ∧
      Unquoted later

instance decidableUnquoted : (values : List String) → Decidable (Unquoted values)
  | [] => isTrue trivial
  | v :: later =>
    have := decidableUnquoted later
    inferInstanceAs (Decidable (';' ∉ v.toList ∧ _ ∧ Unquoted later))

/-- The condition on the first value, and that on those after it. -/
theorem unquoted_cons {v : String} {later : List String} : Unquoted (v :: later) ↔
    ';' ∉ v.toList ∧
      (v.toList.head? = some '\x7b' → ∀ w ∈ v :: later, w.toList.getLast? ≠ some '\x7d') ∧
      Unquoted later := Iff.rfl

/-- Values that are kept hold no semicolon. -/
theorem AllKept.semicolon_notMem {pairs : List (String × String)} (h : AllKept pairs) :
    ∀ p ∈ pairs, ';' ∉ p.2.toList := by
  induction pairs with
  | nil => simp
  | cons p pairs ih => exact List.forall_mem_cons.mpr ⟨h.1.semicolon, ih h.2⟩

/-- A text that opens with a brace ends with a closing one exactly if its tail does. -/
theorem getLast?_tail {cs : List Char} (h : cs.head? = some '\x7b') :
    cs.tail.getLast? = some '\x7d' ↔ cs.getLast? = some '\x7d' := by
  obtain ⟨t, rfl⟩ := List.head?_eq_some_iff.mp h
  cases t with
  | nil => simp
  | cons d t => rw [List.tail_cons, List.getLast?_cons_cons]

/-- **When the values of pairs are kept.** -/
theorem allKept_iff {pairs : List (String × String)} (hkeys : ∀ p ∈ pairs, IsKey p.1) :
    AllKept pairs ↔ Unquoted (pairs.map (·.2)) := by
  induction pairs with
  | nil => exact Iff.rfl
  | cons p pairs ih =>
    obtain ⟨key, value⟩ := p
    obtain ⟨-, hkeys⟩ := List.forall_mem_cons.mp hkeys
    show Kept value.toList (pairsText pairs) ∧ AllKept pairs ↔ Unquoted (value :: pairs.map (·.2))
    rw [unquoted_cons, ← ih hkeys]
    -- no value holds a semicolon on either side, so braces are closed at the ends of values only
    have hbrace : ';' ∉ value.toList → AllKept pairs → value.toList.head? = some '\x7b' →
        (untilBrace? (value.toList.tail ++ ';' :: pairsText pairs) = none ↔
          ∀ w ∈ value :: pairs.map (·.2), w.toList.getLast? ≠ some '\x7d') := by
      intro hvalue hall hopen
      have htail : ';' ∉ value.toList.tail := fun hmem => hvalue (List.mem_of_mem_tail hmem)
      rw [untilBrace?_eq_none_iff htail, untilBrace?_pairsText hkeys hall.semicolon_notMem,
        List.forall_mem_cons, List.forall_mem_map, Ne, getLast?_tail hopen]
    constructor
    · rintro ⟨hkept, hall⟩
      exact ⟨hkept.semicolon, fun hopen =>
        (hbrace hkept.semicolon hall hopen).mp (hkept.brace hopen), hall⟩
    · rintro ⟨hvalue, hbraces, hall⟩
      exact ⟨⟨hvalue, fun hopen => (hbrace hvalue hall hopen).mpr (hbraces hopen)⟩, hall⟩

/-- A text that holds neither a brace nor a semicolon. -/
structure Plain (v : List Char) : Prop where
  semicolon : ';' ∉ v
  opening : '\x7b' ∉ v
  closing : '\x7d' ∉ v

/-- A plain text is kept wherever it stands. -/
theorem Plain.kept {v : List Char} (h : Plain v) (rest : List Char) : Kept v rest :=
  ⟨h.semicolon, fun hhead => absurd (List.mem_of_head? hhead) h.opening⟩

/-- A plain text among the values does not count. -/
theorem Plain.unquoted_iff {v : String} (h : Plain v.toList) (front later : List String) :
    Unquoted (front ++ v :: later) ↔ Unquoted (front ++ later) := by
  have hopen : v.toList.head? ≠ some '\x7b' := fun hhead => h.opening (List.mem_of_head? hhead)
  have hclose : v.toList.getLast? ≠ some '\x7d' := fun hlast =>
    h.closing (List.mem_of_getLast? hlast)
  induction front with
  | nil =>
    rw [List.nil_append, List.nil_append, unquoted_cons]
    exact ⟨fun hall => hall.2.2, fun hlater =>
      ⟨h.semicolon, fun hhead => absurd hhead hopen, hlater⟩⟩
  | cons w front ih =>
    rw [List.cons_append, List.cons_append, unquoted_cons, unquoted_cons]
    simp only [ih, List.forall_mem_cons, List.forall_mem_append, ne_eq, hclose, not_false_eq_true,
      true_and]

end ConnectionText

namespace DatabaseConfig

open ConnectionText

/-! ## §5. Settings. -/

/-- What is written of a configuration behind the name of the driver. -/
def settings (c : DatabaseConfig) : List (String × String) := [
  ("DATABASE", c.database), ("HOSTNAME", c.host), ("PORT", toString (c.port.getD 50000)),
  ("PROTOCOL", "TCPIP"), ("UID", c.user), ("PWD", c.password)]

/-- All keys of a configuration may be keys. -/
theorem isKey_settings (c : DatabaseConfig) : ∀ p ∈ c.settings, IsKey p.1 := by
  have hkeys : ∀ key ∈ c.settings.map (·.1), IsKey key := by
    show ∀ key ∈ ["DATABASE", "HOSTNAME", "PORT", "PROTOCOL", "UID", "PWD"], IsKey key
    decide
  exact fun p hp => hkeys p.1 (List.mem_map_of_mem hp)

/-- No configuration has a key twice. -/
theorem nodup_settings (c : DatabaseConfig) : (c.settings.map (·.1)).Nodup := by
  show ["DATABASE", "HOSTNAME", "PORT", "PROTOCOL", "UID", "PWD"].Nodup
  decide

/-- **What is read of a text that is made of a configuration.** -/
theorem readPairs_connectionText {c : DatabaseConfig} (h : c.connectionString = none) :
    readPairs c.connectionText.toList
      = ("DRIVER", "IBM DB2 ODBC DRIVER") :: readPairs (pairsText c.settings) := by
  have htext : c.connectionText.toList = "DRIVER".toList ++ '=' ::
      ("\x7bIBM DB2 ODBC DRIVER\x7d".toList ++ ';' :: pairsText c.settings) := by
    unfold connectionText
    rw [h]
    simp [settings, pairsText, pairText, defaultPort]
  rw [htext]
  exact readPairs_value (w := "IBM DB2 ODBC DRIVER".toList) (by decide) rfl

/-- **What a connection text says beside the driver** is what its settings say. -/
theorem told_connectionText {c : DatabaseConfig} (h : c.connectionString = none) {key : String}
    (hkey : key ≠ "DRIVER") : told key (readPairs c.connectionText.toList)
      = told key (readPairs (pairsText c.settings)) := by
  rw [readPairs_connectionText h, told_cons, if_neg (Ne.symm hkey)]

/-- **A connection text says what a configuration says:** the database, the host, the port, the user
and the password, and each of them once. -/
structure Tells (text : String) (c : DatabaseConfig) : Prop where
  database : told "DATABASE" (readPairs text.toList) = [c.database]
  host : told "HOSTNAME" (readPairs text.toList) = [c.host]
  port : told "PORT" (readPairs text.toList) = [toString (c.port.getD 50000)]
  user : told "UID" (readPairs text.toList) = [c.user]
  password : told "PWD" (readPairs text.toList) = [c.password]

/-- The digits of a port are plain. -/
theorem plain_natText (n : Nat) : Plain (toString n).toList := by
  have hdigits : ∀ c, isDigit c = false → c ∉ (toString n).toList := by
    intro c hc hmem
    rw [toList_natText] at hmem
    rw [isDigit_of_mem_digitsOf hmem] at hc
    cases hc
  exact ⟨hdigits _ rfl, hdigits _ rfl, hdigits _ rfl⟩

theorem plain_protocol : Plain "TCPIP".toList := ⟨by decide, by decide, by decide⟩

/-- The port and the protocol do not count. -/
theorem unquoted_settings (c : DatabaseConfig) : Unquoted (c.settings.map (·.2))
    ↔ Unquoted [c.database, c.host, c.user, c.password] :=
  ((plain_natText (c.port.getD 50000)).unquoted_iff [c.database, c.host]
      ["TCPIP", c.user, c.password]).trans
    (plain_protocol.unquoted_iff [c.database, c.host] [c.user, c.password])

/-- **WHAT A CONNECTION TEXT SAYS.**  The text that is made of a configuration is read as its
database, its host, its port (50000 if there is none), its user and its password, each of them once,
exactly if none of the four texts among them holds a semicolon, and none that opens with a brace is
followed by one that ends with a closing brace, or ends with one itself. -/
theorem connectionText_tells_iff {c : DatabaseConfig} (h : c.connectionString = none) :
    Tells c.connectionText c ↔ Unquoted [c.database, c.host, c.user, c.password] := by
  rw [← unquoted_settings, ← allKept_iff c.isKey_settings]
  constructor
  · intro htells
    -- what is told beside the driver is told by the settings
    have htold : ∀ {key value : String}, key ≠ "DRIVER" →
        told key (readPairs c.connectionText.toList) = [value] →
        told key (readPairs (pairsText c.settings)) = [value] := by
      intro key value hkey hread
      rwa [← told_connectionText h hkey]
    refine allKept_of_told c.isKey_settings c.nodup_settings ?_
    simp only [settings, List.forall_mem_cons]
    exact ⟨.inr (htold (by decide) htells.database), .inr (htold (by decide) htells.host),
      .inl (plain_natText _).kept, .inl plain_protocol.kept,
      .inr (htold (by decide) htells.user), .inr (htold (by decide) htells.password), by simp⟩
  · intro hall
    -- settings that are kept are read as they are, each key once
    have htold : ∀ p ∈ c.settings, told p.1 (readPairs (pairsText c.settings)) = [p.2] := by
      rw [hall.readPairs_eq c.isKey_settings]
      exact told_of_nodup c.nodup_settings
    have hread : ∀ {key value : String}, (key, value) ∈ c.settings → key ≠ "DRIVER" →
        told key (readPairs c.connectionText.toList) = [value] := by
      intro key value hmem hkey
      rw [told_connectionText h hkey, htold (key, value) hmem]
    exact ⟨hread (by simp [settings]) (by decide), hread (by simp [settings]) (by decide),
      hread (by simp [settings]) (by decide), hread (by simp [settings]) (by decide),
      hread (by simp [settings]) (by decide)⟩

/-- The variables of a database with a given password. -/
def coreVariables (password : String) : Variables := fun name =>
  ([("DB_CORE_TYPE", "db2"), ("DB_CORE_HOST", "mainframe"), ("DB_CORE_NAME", "CORE"),
    ("DB_CORE_USER", "qa"), ("DB_CORE_PASSWORD", password)] : List (String × String)).lookup name

/-- The configuration of that database. -/
def coreConfig (password : String) : DatabaseConfig :=
  { name := "core", kind := .odbc, host := "mainframe", port := none, user := "qa",
    password := password, database := "CORE", connectionString := none }

theorem connectionText_tells_braced :
    ofVariables "core" (coreVariables "\x7bp=1\x7dq") = .ok (coreConfig "\x7bp=1\x7dq") ∧
      (coreConfig "\x7bp=1\x7dq").connectionString = none ∧
      Tells (coreConfig "\x7bp=1\x7dq").connectionText (coreConfig "\x7bp=1\x7dq") :=
  ⟨rfl, rfl, (connectionText_tells_iff rfl).mpr (by decide)⟩

/-- A password with a semicolon is cut there, and what follows it may name another host. -/
theorem host_from_password :
    ofVariables "core" (coreVariables "p;HOSTNAME=spare") = .ok (coreConfig "p;HOSTNAME=spare") ∧
      (coreConfig "p;HOSTNAME=spare").connectionString = none ∧
      told "PWD" (readPairs (coreConfig "p;HOSTNAME=spare").connectionText.toList) = ["p"] ∧
      told "HOSTNAME" (readPairs (coreConfig "p;HOSTNAME=spare").connectionText.toList)
        = ["mainframe", "spare"] ∧
      ¬Tells (coreConfig "p;HOSTNAME=spare").connectionText (coreConfig "p;HOSTNAME=spare") := by
  have hpassword : told "PWD" (readPairs (coreConfig "p;HOSTNAME=spare").connectionText.toList)
      = ["p"] := by decide +kernel
  refine ⟨rfl, rfl, hpassword, by decide +kernel, fun htells => ?_⟩
  have hboth := hpassword.symm.trans htells.password
  exact absurd hboth (by decide)

end DatabaseConfig

end SuiteRunner

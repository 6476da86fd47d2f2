import Mathlib.Data.List.TakeWhile
import SuiteRunner.Text.Blank
import SuiteRunner.Text.Split

/-!
  SuiteRunner.Proofs.Text.Cutting
  ────────────────────────────────
  **PIECES OF TEXTS, AND THE BLANKS AROUND THEM.**

  Trimming takes off what blanks were put around a text, and splitting gives back what was joined,
  as long as the pieces lack one of the separator's characters:

    • `trimChars_padded` — blanks around a text do not count,
    • `trimChars_cut` — a text with a colon or the like in it is trimmed before and after it,
    • `splitOnceChars?_first` — a text is cut at the first occurrence,
    • `cut_at_last` — and in one way at the last,
    • `splitChars_intercalate` — joined pieces are given back,
    • `splitChars_append` — splitting at one character goes through concatenation.
-/

namespace SuiteRunner.Text

/-! ## §1. Trimming. -/

/-- Nothing is dropped if the first character is not to be. -/
theorem dropWhile_eq_self {p : Char → Bool} {cs : List Char}
    (h : ∀ c, cs.head? = some c → p c = false) : cs.dropWhile p = cs := by
  cases cs with
  | nil => rfl
  | cons c rest => exact List.dropWhile_cons_of_neg (by rw [h c rfl]; decide)

theorem dropWhile_eq_nil {p : Char → Bool} {cs : List Char} (h : ∀ c ∈ cs, p c = true) :
    cs.dropWhile p = [] := by
  rw [← List.append_nil cs, List.dropWhile_append_of_pos h]
  rfl

/-- Nothing but blanks. -/
def Blank (cs : List Char) : Prop := ∀ c ∈ cs, isBlank c = true

instance (cs : List Char) : Decidable (Blank cs) :=
  decidable_of_iff (cs.all isBlank = true) List.all_eq_true

theorem blank_nil : Blank [] := by simp [Blank]

/-- A blank text has no character that is not blank. -/
theorem Blank.lacks {c : Char} (hc : isBlank c = false) {cs : List Char} (h : Blank cs) :
    c ∉ cs := fun hmem => by
  rw [h c hmem] at hc
  cases hc

/-- **No blank at either end.** -/
structure Tight (cs : List Char) : Prop where
  first : ∀ c ∈ cs.head?, isBlank c = false
  last : ∀ c ∈ cs.getLast?, isBlank c = false

/-- The two ends are looked at, and nothing else of the text. -/
theorem tight_iff {cs : List Char} :
    (cs.head?.all (!isBlank ·) && cs.getLast?.all (!isBlank ·)) = true ↔ Tight cs := by
  rw [Bool.and_eq_true]
  constructor
  · rintro ⟨hfirst, hlast⟩
    exact ⟨fun c hc => by simpa [Option.mem_def.mp hc] using hfirst,
      fun c hc => by simpa [Option.mem_def.mp hc] using hlast⟩
  · intro h
    refine ⟨?_, ?_⟩
    · cases hend : cs.head? with
      | none => rfl
      | some c => simp [h.first c hend]
    · cases hend : cs.getLast? with
      | none => rfl
      | some c => simp [h.last c hend]

instance (cs : List Char) : Decidable (Tight cs) := decidable_of_iff _ tight_iff

/-- A text stays tight if a character that is not blank is put before it. -/
theorem Tight.cons {c : Char} {cs : List Char} (hc : isBlank c = false) (h : Tight cs) :
    Tight (c :: cs) := by
  refine ⟨fun d hd => ?_, fun d hd => ?_⟩
  · obtain rfl : c = d := Option.some.inj hd
    exact hc
  · rw [List.getLast?_cons] at hd
    obtain rfl := Option.some.inj hd
    cases hlast : cs.getLast? with
    | none => exact hc
    | some e => exact h.last e hlast

/-- Blanks at the end do not matter to a text that is trimmed there. -/
theorem trimEndChars_append {after : List Char} (hafter : Blank after) (cs : List Char) :
    trimEndChars (cs ++ after) = trimEndChars cs := by
  unfold trimEndChars
  rw [List.reverse_append,
    List.dropWhile_append_of_pos fun c hc => hafter c (List.mem_reverse.mp hc)]

/-- **Blanks around a text do not count.** -/
theorem trimChars_padded {before after : List Char} (hbefore : Blank before)
    (hafter : Blank after) (cs : List Char) :
    trimChars (before ++ cs ++ after) = trimChars cs := by
  unfold trimChars trimStartChars
  rw [List.append_assoc, List.dropWhile_append_of_pos hbefore, List.dropWhile_append]
  -- if the text is blank, the blanks after it are at the start, too
  by_cases hempty : (cs.dropWhile isBlank).isEmpty = true
  · rw [if_pos hempty, dropWhile_eq_nil hafter, List.isEmpty_iff.mp hempty]
  · rw [if_neg hempty, trimEndChars_append hafter]

theorem trimChars_blank {cs : List Char} (h : Blank cs) : trimChars cs = [] :=
  trimChars_padded blank_nil h []

/-- A text without blanks at its ends is left as it is. -/
theorem Tight.trimChars_eq {cs : List Char} (h : Tight cs) : trimChars cs = cs := by
  unfold trimChars trimStartChars trimEndChars
  rw [dropWhile_eq_self h.first, dropWhile_eq_self, List.reverse_reverse]
  intro c hc
  rw [List.head?_reverse] at hc
  exact h.last c hc

/-- **A tight text is trimmed as it is.** -/
theorem trim_of_tight {text : String} (h : Tight text.toList) : trim text = text := by
  unfold trim
  rw [h.trimChars_eq, String.ofList_toList]

theorem blank_takeWhile (cs : List Char) : Blank (cs.takeWhile isBlank) :=
  fun _ hc => List.mem_takeWhile_imp hc

/-- To trim the beginning first makes no difference. -/
theorem trimChars_trimStartChars (cs : List Char) :
    trimChars (trimStartChars cs) = trimChars cs := by
  have hcs : cs.takeWhile isBlank ++ trimStartChars cs = cs := List.takeWhile_append_dropWhile
  have hpadded := trimChars_padded (blank_takeWhile cs) blank_nil (trimStartChars cs)
  rw [List.append_nil, hcs] at hpadded
  exact hpadded.symm

/-- To trim the end first makes none either. -/
theorem trimChars_trimEndChars (cs : List Char) : trimChars (trimEndChars cs) = trimChars cs := by
  have hcs : trimEndChars cs ++ (cs.reverse.takeWhile isBlank).reverse = cs := by
    unfold trimEndChars
    rw [← List.reverse_append, List.takeWhile_append_dropWhile, List.reverse_reverse]
  have hafter : Blank (cs.reverse.takeWhile isBlank).reverse := fun c hc =>
    blank_takeWhile cs.reverse c (List.mem_reverse.mp hc)
  have hpadded := trimChars_padded blank_nil hafter (trimEndChars cs)
  rw [List.nil_append, hcs] at hpadded
  exact hpadded.symm

/-- Trimming brings no characters in. -/
theorem trimChars_subset (cs : List Char) : trimChars cs ⊆ cs := fun _ hc =>
  (List.dropWhile_sublist _).subset
    (List.mem_reverse.mp ((List.dropWhile_sublist _).subset (List.mem_reverse.mp hc)))

/-- The beginning is trimmed up to the first character that is not blank, and never past one. -/
theorem trimStartChars_cut {c : Char} (hc : isBlank c = false) (a b : List Char) :
    trimStartChars (a ++ c :: b) = trimStartChars a ++ c :: b := by
  have hrest : (c :: b).dropWhile isBlank = c :: b :=
    List.dropWhile_cons_of_neg (by rw [hc]; decide)
  unfold trimStartChars
  rw [List.dropWhile_append, hrest]
  by_cases hempty : (a.dropWhile isBlank).isEmpty = true
  · rw [if_pos hempty, List.isEmpty_iff.mp hempty, List.nil_append]
  · rw [if_neg hempty]

/-- The end is trimmed back to the last character that is not blank, and never past one. -/
theorem trimEndChars_cut {c : Char} (hc : isBlank c = false) (a b : List Char) :
    trimEndChars (a ++ c :: b) = a ++ c :: trimEndChars b := by
  -- read backwards, the end is the start
  have hfront := trimStartChars_cut hc b.reverse a.reverse
  unfold trimStartChars at hfront
  unfold trimEndChars
  rw [List.reverse_append, List.reverse_cons, List.append_assoc, List.singleton_append, hfront,
    List.reverse_append, List.reverse_cons, List.reverse_reverse, List.append_assoc,
    List.singleton_append]

/-- **A text with a character in it that is no blank is trimmed before and after it.** -/
theorem trimChars_cut {c : Char} (hc : isBlank c = false) (a b : List Char) :
    trimChars (a ++ c :: b) = trimStartChars a ++ c :: trimEndChars b := by
  unfold trimChars
  rw [trimStartChars_cut hc, trimEndChars_cut hc]

/-! ## §2. Cutting once. -/

/-- **A text is cut at the first occurrence.** -/
theorem splitOnceChars?_first {c : Char} {a : List Char} (ha : c ∉ a) (b : List Char) :
    splitOnceChars? c (a ++ c :: b) = some (a, b) := by
  induction a with
  | nil => exact if_pos rfl
  | cons d a ih =>
    obtain ⟨hd, ha⟩ := not_or.mp (mt List.mem_cons.mpr ha)
    show (if d = c then some ([], a ++ c :: b) else (splitOnceChars? c (a ++ c :: b)).map _) = _
    rw [if_neg (Ne.symm hd), ih ha]
    rfl

/-- A text without the character is not split at it. -/
theorem splitOnceChars?_eq_none {c : Char} {cs : List Char} (h : c ∉ cs) :
    splitOnceChars? c cs = none := by
  induction cs with
  | nil => rfl
  | cons d cs ih =>
    obtain ⟨hd, hcs⟩ := not_or.mp (mt List.mem_cons.mpr h)
    show (if d = c then some ([], cs) else (splitOnceChars? c cs).map _) = _
    rw [if_neg (Ne.symm hd), ih hcs]
    rfl

/-- What is cut off at the last place of an element begins there. -/
theorem eq_nil_of_last {α : Type} {a : α} {between us vs : List α}
    (h : a :: us = between ++ a :: vs) (hus : a ∉ us) : between = [] ∧ us = vs := by
  cases between with
  | nil =>
    cases h
    exact ⟨rfl, rfl⟩
  | cons b between =>
    obtain ⟨-, hrest⟩ := List.cons.inj h
    exact absurd (hrest ▸ List.mem_append_right _ List.mem_cons_self) hus

/-- Two lists are cut alike at the last place of an element. -/
theorem cut_at_last {α : Type} {a : α} {xs ys us vs : List α} (h : xs ++ a :: us = ys ++ a :: vs)
    (hus : a ∉ us) (hvs : a ∉ vs) : xs = ys ∧ us = vs := by
  -- one of the two beginnings is the longer one, by nothing as it turns out
  obtain ⟨between, hys, hrest⟩ | ⟨between, hxs, hrest⟩ := List.append_eq_append_iff.mp h
  · obtain ⟨rfl, heq⟩ := eq_nil_of_last hrest hus
    exact ⟨by rw [hys, List.append_nil], heq⟩
  · obtain ⟨rfl, heq⟩ := eq_nil_of_last hrest hvs
    exact ⟨by rw [hxs, List.append_nil], heq.symm⟩

/-! ## §3. Splitting. -/

section

variable {sep : List Char}

/-- The characters of a separator are left out of the pieces. -/
theorem splitFrom_skip (piece rest : List Char) : ∀ dropped : List Char,
    splitFrom sep dropped.length piece (dropped ++ rest) = splitFrom sep 0 piece rest
  | [] => rfl
  | _ :: dropped => by
    show splitFrom sep dropped.length piece (dropped ++ rest) = _
    exact splitFrom_skip piece rest dropped

/-- A separator does not begin in a text that lacks one of its characters, not even if it ends
after that text. -/
theorem not_prefix_of_lacks {m : Char} (hm : m ∈ sep) {text : List Char} (htext : m ∉ text)
    (hne : text ≠ []) (rest : List Char) : ¬sep <+: text ++ (sep ++ rest) := by
  rintro ⟨after, heq⟩
  obtain ⟨pre, post, rfl, hpre⟩ := List.eq_append_cons_of_mem hm
  -- what stands before the first `m` would have to be one text and a longer one
  have hfirst := congrArg (List.takeWhile (· != m)) heq
  have hbefore : ∀ (a b : List Char), m ∉ a → (a ++ m :: b).takeWhile (· != m) = a := by
    intro a b ha
    rw [List.takeWhile_append_of_pos, List.takeWhile_cons_of_neg (by simp), List.append_nil]
    intro c hc
    simpa using fun h : c = m => ha (h ▸ hc)
  have hboth : m ∉ text ++ pre := by simp [htext, hpre]
  rw [List.append_assoc, List.cons_append, hbefore pre _ hpre, List.append_assoc,
    List.cons_append, ← List.append_assoc, hbefore (text ++ pre) _ hboth] at hfirst
  have hlength := congrArg List.length hfirst
  rw [List.length_append] at hlength
  have hpos := List.length_pos_iff.mpr hne
  omega

/-- **The piece before a separator.** -/
theorem splitFrom_piece {m : Char} (hm : m ∈ sep) (rest : List Char) :
    ∀ (text : List Char), m ∉ text → ∀ piece : List Char,
      splitFrom sep 0 piece (text ++ (sep ++ rest))
        = (piece.reverse ++ text) :: splitFrom sep 0 [] rest := by
  intro text
  induction text with
  | nil =>
    intro _ piece
    obtain ⟨c, tail, rfl⟩ := List.exists_cons_of_ne_nil (List.ne_nil_of_mem hm)
    have hbegins : (c :: tail).isPrefixOf (c :: (tail ++ rest)) = true :=
      List.isPrefixOf_iff_prefix.mpr ⟨rest, rfl⟩
    show (if (c :: tail).isPrefixOf (c :: (tail ++ rest)) = true then
      piece.reverse :: splitFrom (c :: tail) tail.length [] (tail ++ rest) else _) = _
    rw [if_pos hbegins, splitFrom_skip, List.append_nil]
  | cons c text ih =>
    intro htext piece
    -- no separator begins here, since one of its characters is not in the text
    have hbegins : ¬sep.isPrefixOf (c :: (text ++ (sep ++ rest))) = true := fun h =>
      not_prefix_of_lacks hm htext (List.cons_ne_nil c text) rest
        (List.isPrefixOf_iff_prefix.mp h)
    show (if sep.isPrefixOf (c :: (text ++ (sep ++ rest))) = true then _ else
      splitFrom sep 0 (c :: piece) (text ++ (sep ++ rest))) = _
    rw [if_neg hbegins, ih (List.not_mem_of_not_mem_cons htext), List.reverse_cons,
      List.append_assoc, List.singleton_append]

/-- **The last piece.** -/
theorem splitFrom_last {m : Char} (hm : m ∈ sep) :
    ∀ text : List Char, m ∉ text → ∀ piece : List Char,
      splitFrom sep 0 piece text = [piece.reverse ++ text] := by
  intro text
  induction text with
  | nil =>
    intro _ piece
    rw [List.append_nil]
    rfl
  | cons c text ih =>
    intro htext piece
    have hbegins : ¬sep.isPrefixOf (c :: text) = true := fun h =>
      htext ((List.isPrefixOf_iff_prefix.mp h).subset hm)
    show (if sep.isPrefixOf (c :: text) = true then _ else splitFrom sep 0 (c :: piece) text) = _
    rw [if_neg hbegins, ih (List.not_mem_of_not_mem_cons htext), List.reverse_cons,
      List.append_assoc, List.singleton_append]

/-- A text that lacks one of the separator's characters is one piece. -/
theorem splitChars_of_lacks {m : Char} (hm : m ∈ sep) {text : List Char} (htext : m ∉ text) :
    splitChars sep text = [text] := splitFrom_last hm text htext []

/-- **Joined pieces are given back.** -/
theorem splitChars_intercalate {m : Char} (hm : m ∈ sep) {pieces : List (List Char)}
    (hne : pieces ≠ []) (hpieces : ∀ p ∈ pieces, m ∉ p) :
    splitChars sep (sep.intercalate pieces) = pieces := by
  induction pieces with
  | nil => exact absurd rfl hne
  | cons p rest ih =>
    have hp := hpieces p List.mem_cons_self
    cases rest with
    | nil =>
      rw [List.intercalate_singleton]
      exact splitChars_of_lacks hm hp
    | cons q rest =>
      rw [List.intercalate_cons_cons]
      show splitFrom sep 0 [] _ = _
      rw [List.append_assoc, splitFrom_piece hm _ p hp, List.reverse_nil, List.nil_append]
      congr 1
      exact ih (List.cons_ne_nil q rest) fun r hr => hpieces r (List.mem_cons_of_mem _ hr)

/-- There is always a piece. -/
theorem splitFrom_ne_nil (cs : List Char) : ∀ skip piece, splitFrom sep skip piece cs ≠ [] := by
  induction cs with
  | nil => exact fun _ _ => List.cons_ne_nil _ _
  | cons c cs ih =>
    intro skip piece
    cases skip with
    | zero =>
      unfold splitFrom
      split
      · exact List.cons_ne_nil _ _
      · exact ih 0 _
    | succ skip => exact ih skip piece

end

/-- **Splitting at one character goes through concatenation.** -/
theorem splitChars_append (c : Char) (a b : List Char) :
    splitChars [c] (a ++ c :: b) = splitChars [c] a ++ splitChars [c] b := by
  have hstep : ∀ (d : Char) (rest piece : List Char), splitFrom [c] 0 piece (d :: rest)
      = if c = d then piece.reverse :: splitFrom [c] 0 [] rest
        else splitFrom [c] 0 (d :: piece) rest := by
    intro d rest piece
    have hbegins : ([c].isPrefixOf (d :: rest) = true) = (c = d) := by simp [List.isPrefixOf]
    show (if [c].isPrefixOf (d :: rest) = true then piece.reverse :: splitFrom [c] 0 [] rest
      else splitFrom [c] 0 (d :: piece) rest) = _
    simp only [hbegins]
  -- on what stands before the separator, with the piece that is open there
  have happend : ∀ (a piece : List Char),
      splitFrom [c] 0 piece (a ++ c :: b) = splitFrom [c] 0 piece a ++ splitFrom [c] 0 [] b := by
    intro a
    induction a with
    | nil =>
      intro piece
      rw [List.nil_append, hstep, if_pos rfl]
      rfl
    | cons d a ih =>
      intro piece
      rw [List.cons_append, hstep, hstep]
      by_cases hd : c = d
      · rw [if_pos hd, if_pos hd, ih, List.cons_append]
      · rw [if_neg hd, if_neg hd, ih]
  exact happend a []

end SuiteRunner.Text

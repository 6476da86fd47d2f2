import Mathlib.Data.List.Infix
import SuiteRunner.Proofs.Json.Strings
import SuiteRunner.Locator.Selector

/-!
  SuiteRunner.Proofs.Locator.Splitting
  ────────────────────────────────
  **CUTTING A SELECTOR INTO ITS PARTS.**

  `cut` takes a text apart at the separators that stand outside quotes; inside quotes a backslash
  takes the character after it along.  A text is solid if no cut falls into it or on its edges,
  whatever stands after it, and a text in quotes is solid whatever was quoted:

    • `solid_of_calm` — a text without quotes, blanks and angles is solid,
    • `solid_quoted` — so is a text in quotes, with either way of escaping,
    • `passes_of_raw` — a raw text without quotes and `>>` is not cut,
    • `splitSelector_join` — texts that are not cut are got back from a selector made of them.
-/

namespace SuiteRunner

namespace Selector

/-! ## §1. The cut. -/

/-- Put a text before the first part. -/
def prepend (front : List Char) : List (List Char) → List (List Char)
  | [] => [front]
  | part :: rest => (front ++ part) :: rest

/-- **Cut a text at each separator outside quotes;** the flag tells whether a quote is open. -/
def cut : Bool → List Char → List (List Char)
  | _, [] => [[]]
  | true, '\\' :: c :: rest => prepend ['\\', c] (cut true rest)
  | true, c :: rest => prepend [c] (cut (c != '"') rest)
  | false, ' ' :: '>' :: '>' :: ' ' :: rest => [] :: cut false rest
  | false, c :: rest => prepend [c] (cut (c == '"') rest)

/-- The parts of a selector. -/
def splitSelector (s : String) : List String := (cut false s.toList).map String.ofList

theorem prepend_nil (parts : List (List Char)) (h : parts ≠ []) : prepend [] parts = parts := by
  cases parts with
  | nil => exact absurd rfl h
  | cons part rest => rfl

/-- To put a text before the first part, and then another one, is to put both there. -/
theorem prepend_prepend (p q : List Char) (parts : List (List Char)) :
    prepend p (prepend q parts) = prepend (p ++ q) parts := by
  cases parts with
  | nil => rfl
  | cons part rest =>
    show (p ++ (q ++ part)) :: rest = (p ++ q ++ part) :: rest
    rw [List.append_assoc]

theorem prepend_ne_nil (p : List Char) (parts : List (List Char)) : prepend p parts ≠ [] := by
  cases parts <;> exact List.cons_ne_nil _ _

/-- There is always a first part, though it may be empty. -/
theorem cut_ne_nil (quoted : Bool) (cs : List Char) : cut quoted cs ≠ [] := by
  unfold cut
  split <;> first | exact List.cons_ne_nil _ _ | exact prepend_ne_nil _ _

/-- Outside quotes, a character that no separator begins with. -/
theorem cut_cons {c : Char} {rest : List Char}
    (h : ¬(['>', '>'] <+: rest) ∨ c ≠ ' ') :
    cut false (c :: rest) = prepend [c] (cut (c == '"') rest) := by
  rw [cut]
  rintro more rfl rfl
  obtain hnot | hne := h
  · exact hnot ⟨' ' :: more, rfl⟩
  · exact hne rfl

/-- Inside quotes, a character that is no backslash. -/
theorem cut_quoted_cons {c : Char} (hc : c ≠ '\\') (rest : List Char) :
    cut true (c :: rest) = prepend [c] (cut (c != '"') rest) := by
  rw [cut]
  intro d more h
  exact absurd h hc

/-! ## §2. Solid texts. -/

/-- **A text that is kept in one piece** before all that does not begin with an angle. -/
def Passes (p : List Char) : Prop :=
  ∀ rest, rest.head? ≠ some '>' → cut false (p ++ rest) = prepend p (cut false rest)

/-- **A text that is kept in one piece whatever stands around it.** -/
structure Solid (p : List Char) : Prop where
  cut : ∀ rest, cut false (p ++ rest) = prepend p (Selector.cut false rest)
  head : p.head? ≠ some '>'

/-- What is solid before anything is so before what does not begin with an angle. -/
theorem Solid.passes {p : List Char} (h : Solid p) : Passes p := fun rest _ => h.cut rest

theorem solid_nil : Solid [] where
  cut rest := (prepend_nil _ (cut_ne_nil false rest)).symm
  head := by decide

/-- **Solid texts in a row are solid.** -/
theorem Solid.append {p q : List Char} (hp : Solid p) (hq : Solid q) : Solid (p ++ q) where
  cut rest := by rw [List.append_assoc, hp.cut, hq.cut, prepend_prepend]
  head := by
    cases p with
    | nil => exact hq.head
    | cons c p => exact hp.head

/-- A solid text may stand before one that is not cut. -/
theorem Solid.append_passes {p q : List Char} (hp : Solid p) (hq : Passes q) :
    Passes (p ++ q) := by
  intro rest hrest
  rw [List.append_assoc, hp.cut, hq rest hrest, prepend_prepend]

/-- A solid text may stand after one that is not cut. -/
theorem Passes.append_solid {p q : List Char} (hp : Passes p) (hq : Solid q) :
    Passes (p ++ q) := by
  intro rest hrest
  have hhead : (q ++ rest).head? ≠ some '>' := by
    cases q with
    | nil => exact hrest
    | cons c q => exact hq.head
  rw [List.append_assoc, hp _ hhead, hq.cut, prepend_prepend]

/-- Whether a character is neither a quote nor part of a separator. -/
def isCalm (c : Char) : Bool := c != '"' && c != ' ' && c != '>'

/-- A text without quotes, blanks and angles is solid. -/
theorem solid_of_calm {p : List Char} (h : p.all isCalm = true) : Solid p := by
  induction p with
  | nil => exact solid_nil
  | cons c p ih =>
    rw [List.all_cons, Bool.and_eq_true] at h
    obtain ⟨hc, hp⟩ := h
    have hcalm : (c ≠ '"' ∧ c ≠ ' ') ∧ c ≠ '>' := by
      simpa [isCalm] using hc
    obtain ⟨⟨hquote, hblank⟩, hangle⟩ := hcalm
    refine ⟨fun rest => ?_, fun heq => hangle (Option.some.inj heq)⟩
    show Selector.cut false (c :: (p ++ rest)) = _
    rw [cut_cons (.inr hblank), beq_eq_false_iff_ne.mpr hquote, (ih hp).cut, prepend_prepend]
    rfl

/-! ## §3. Texts in quotes. -/

/-- A text that keeps a quote open. -/
def Inside (p : List Char) : Prop := ∀ rest, cut true (p ++ rest) = prepend p (cut true rest)

theorem inside_nil : Inside [] := fun rest => (prepend_nil _ (cut_ne_nil true rest)).symm

/-- What does not end a quotation may be followed by more of its kind. -/
theorem Inside.append {p q : List Char} (hp : Inside p) (hq : Inside q) : Inside (p ++ q) := by
  intro rest
  rw [List.append_assoc, hp, hq, prepend_prepend]

/-- A character that is neither a quote nor a backslash does not end a quotation. -/
theorem inside_char {c : Char} (hquote : c ≠ '"') (hslash : c ≠ '\\') : Inside [c] := by
  intro rest
  show cut true (c :: rest) = _
  rw [cut_quoted_cons hslash, bne_iff_ne.mpr hquote]

/-- After a backslash any character may stand in a quotation, a quote too. -/
theorem inside_escape (c : Char) : Inside ['\\', c] := by
  intro rest
  show cut true ('\\' :: c :: rest) = _
  rw [cut]

/-- A text that is escaped character by character does not end the quotation it stands in. -/
theorem inside_flatMap {block : Char → List Char} (h : ∀ c, Inside (block c)) (cs : List Char) :
    Inside (cs.flatMap block) := by
  induction cs with
  | nil => exact inside_nil
  | cons c cs ih =>
    rw [List.flatMap_cons]
    exact (h c).append ih

/-- Digits of escapes are neither quotes nor backslashes. -/
theorem hexDigit_plain : ∀ n < 16, Json.hexDigit n ≠ '"' ∧ Json.hexDigit n ≠ '\\' := by decide

/-- Every block of a quoted text keeps the quote open. -/
theorem inside_escapeChar (c : Char) : Inside (Json.escapeChar c) := by
  obtain ⟨d, hblock, -⟩ | ⟨hcontrol, hblock⟩ | ⟨hblock, hquote, hslash, -⟩ :=
    Json.escapeChar_cases c
  · rw [hblock]
    exact inside_escape d
  · rw [hblock]
    have hhigh := hexDigit_plain (c.toNat / 16) (by omega)
    have hlow := hexDigit_plain (c.toNat % 16) (by omega)
    have hzero : Inside ['0'] := inside_char (by decide) (by decide)
    exact (inside_escape 'u').append (hzero.append (hzero.append
      ((inside_char hhigh.1 hhigh.2).append (inside_char hlow.1 hlow.2))))
  · rw [hblock]
    exact inside_char hquote hslash

/-- Every character of an attribute value stays inside the quotes. -/
theorem inside_attributeChar (c : Char) : Inside (attributeChar c) := by
  unfold attributeChar
  by_cases hslash : c = '\\'
  · rw [if_pos hslash]
    exact inside_escape '\\'
  · rw [if_neg hslash]
    by_cases hquote : c = '"'
    · rw [if_pos hquote]
      exact inside_escape '"'
    · rw [if_neg hquote]
      exact inside_char hquote hslash

/-- **A text in quotes is solid,** whatever was quoted. -/
theorem solid_quoted {p : List Char} (h : Inside p) : Solid ('"' :: (p ++ ['"'])) where
  cut rest := by
    have hclose : Selector.cut true ('"' :: rest) = prepend ['"'] (Selector.cut false rest) :=
      cut_quoted_cons (by decide) rest
    show Selector.cut false ('"' :: (p ++ ['"'] ++ rest)) = _
    rw [cut_cons (.inr (by decide)), List.append_assoc]
    show prepend ['"'] (Selector.cut true (p ++ '"' :: rest)) = _
    rw [h, hclose, prepend_prepend, prepend_prepend]
    rfl
  head h := absurd (Option.some.inj h) (by decide)

/-! ## §4. Raw texts. -/

/-- **A raw text without quotes and `>>` is not cut.** -/
theorem passes_of_raw {p : List Char} (hquote : '"' ∉ p) (hangles : ¬(['>', '>'] <:+: p)) :
    Passes p := by
  induction p with
  | nil => exact solid_nil.passes
  | cons c p ih =>
    intro rest hrest
    rw [List.mem_cons, not_or] at hquote
    rw [List.infix_cons_iff, not_or] at hangles
    -- two angles after the character would be in the text, or begin what follows it
    have hnot : ¬(['>', '>'] <+: p ++ rest) ∨ c ≠ ' ' := by
      left
      rintro ⟨more, hmore⟩
      cases p with
      | nil =>
        rw [List.nil_append] at hmore
        rw [← hmore] at hrest
        exact hrest rfl
      | cons d p =>
        obtain ⟨rfl, htail⟩ := List.cons.inj hmore
        cases p with
        | nil =>
          have hfollows : '>' :: more = rest := htail
          rw [← hfollows] at hrest
          exact hrest rfl
        | cons e p =>
          obtain ⟨rfl, -⟩ := List.cons.inj htail
          exact hangles.2 ⟨[], p, rfl⟩
    have hopen : (c == '"') = false := beq_eq_false_iff_ne.mpr fun h => hquote.1 h.symm
    show cut false (c :: (p ++ rest)) = _
    rw [cut_cons hnot, hopen, ih hquote.2 hangles.2 rest hrest, prepend_prepend]
    rfl

/-! ## §5. Selectors. -/

/-- A part before a separator is cut off. -/
theorem Passes.cut_separator {p : List Char} (hp : Passes p) (rest : List Char) :
    cut false (p ++ (selectorSeparator.toList ++ rest)) = p :: cut false rest := by
  have hsep : selectorSeparator.toList ++ rest = ' ' :: '>' :: '>' :: ' ' :: rest := rfl
  have hhead : (' ' :: '>' :: '>' :: ' ' :: rest).head? ≠ some '>' :=
    fun h => absurd (Option.some.inj h) (by decide)
  rw [hsep, hp _ hhead, cut]
  show (p ++ []) :: _ = _
  rw [List.append_nil]

/-- A text that is not cut is the only part of itself. -/
theorem Passes.cut_end {p : List Char} (hp : Passes p) : cut false p = [p] := by
  have hcut := hp [] (by decide)
  rw [List.append_nil] at hcut
  rw [hcut]
  show [p ++ []] = _
  rw [List.append_nil]

/-- **Texts that are not cut are got back** when they are joined by separators and cut again. -/
theorem cut_intercalate {p : List Char} {parts : List (List Char)}
    (h : ∀ q ∈ p :: parts, Passes q) :
    cut false (selectorSeparator.toList.intercalate (p :: parts)) = p :: parts := by
  induction parts generalizing p with
  | nil =>
    have hp := h p List.mem_cons_self
    rw [show selectorSeparator.toList.intercalate [p] = p by simp [List.intercalate]]
    exact hp.cut_end
  | cons q parts ih =>
    have hp := h p List.mem_cons_self
    have hsplit : selectorSeparator.toList.intercalate (p :: q :: parts)
        = p ++ (selectorSeparator.toList ++ selectorSeparator.toList.intercalate (q :: parts)) := by
      simp [List.intercalate, List.intersperse]
    rw [hsplit, hp.cut_separator, ih fun r hr => h r (List.mem_cons_of_mem _ hr)]

/-- **Parts that are not cut are got back** from the selector that is made of them. -/
theorem splitSelector_join {parts : List String} (hne : parts ≠ [])
    (h : ∀ p ∈ parts, Passes p.toList) : splitSelector (joinParts parts) = parts := by
  cases parts with
  | nil => exact absurd rfl hne
  | cons p parts =>
    unfold splitSelector joinParts
    rw [String.toList_intercalate, List.map_cons, cut_intercalate]
    · rw [← List.map_cons, List.map_map]
      exact List.map_id'' (fun s => String.ofList_toList) _
    · intro q hq
      rw [← List.map_cons] at hq
      obtain ⟨s, hs, rfl⟩ := List.mem_map.mp hq
      exact h s hs

end Selector

end SuiteRunner

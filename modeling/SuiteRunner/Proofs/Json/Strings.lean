import SuiteRunner.Json.Reading
import SuiteRunner.Json.Render

/-!
  SuiteRunner.Proofs.Json.Strings
  ────────────────────────────────
  **A TEXT IN QUOTES IS READ BACK.**

  A quoted text is made of one block for each character, and the reader takes one block at a time:
  a character as it is, a backslash and a letter, or a unicode escape of a control character.

    • `stringBody_escapeChar` — the block of a character is read as that character,
    • `stringToken_quote` — a whole text in quotes is read back, whatever follows it,
    • `parse_quote` — the document that is a text in quotes is that text.
-/

namespace SuiteRunner

namespace Json

/-! ## §1. Blocks. -/

theorem hexDigitOf_hexDigit : ∀ n < 16, hexDigitOf? (hexDigit n) = some n := by decide

/-- The four digits of a control character. -/
theorem hexEscape_digits {n : Nat} (hn : n < 256) (rest : List Char) :
    Reading.hexEscape ('0' :: '0' :: hexDigit (n / 16) :: hexDigit (n % 16) :: rest)
      = .ok (n, rest) := by
  have hzero : hexDigitOf? '0' = some 0 := by decide
  have hhigh : hexDigitOf? (hexDigit (n / 16)) = some (n / 16) :=
    hexDigitOf_hexDigit _ (by omega)
  have hlow : hexDigitOf? (hexDigit (n % 16)) = some (n % 16) :=
    hexDigitOf_hexDigit _ (by omega)
  have hsum : ((0 * 16 + 0) * 16 + n / 16) * 16 + n % 16 = n := by omega
  simp only [Reading.hexEscape, hzero, hhigh, hlow]
  rw [hsum]

theorem unicodeEscape_of_lt {n : Nat} (hn : n < 0xd800) (rest : List Char) :
    Reading.unicodeEscape n rest = .ok (Char.ofNat n, rest) := by
  unfold Reading.unicodeEscape
  rw [if_neg (by omega), if_pos (by omega)]

/-- The ways in which a character stands inside quotes. -/
theorem escapeChar_cases (c : Char) :
    (∃ d, escapeChar c = ['\\', d] ∧ d ≠ 'u' ∧ Reading.simpleEscape? d = some c) ∨
      (c.toNat < 32 ∧ escapeChar c =
        ['\\', 'u', '0', '0', hexDigit (c.toNat / 16), hexDigit (c.toNat % 16)]) ∨
      (escapeChar c = [c] ∧ c ≠ '"' ∧ c ≠ '\\' ∧ ¬c.toNat < 32) := by
  have htoNat (n : Nat) (h : c.toNat = n) : Char.ofNat n = c := by
    rw [← h, Char.ofNat_toNat]
  -- the seven characters with a short escape, then the other control characters
  unfold escapeChar
  by_cases hquote : c = '"'
  · rw [if_pos hquote, hquote]
    exact .inl ⟨'"', rfl, by decide, by decide⟩
  rw [if_neg hquote]
  by_cases hslash : c = '\\'
  · rw [if_pos hslash, hslash]
    exact .inl ⟨'\\', rfl, by decide, by decide⟩
  rw [if_neg hslash]
  by_cases hn : c = '\n'
  · rw [if_pos hn, hn]
    exact .inl ⟨'n', rfl, by decide, by decide⟩
  rw [if_neg hn]
  by_cases hr : c = '\r'
  · rw [if_pos hr, hr]
    exact .inl ⟨'r', rfl, by decide, by decide⟩
  rw [if_neg hr]
  by_cases ht : c = '\t'
  · rw [if_pos ht, ht]
    exact .inl ⟨'t', rfl, by decide, by decide⟩
  rw [if_neg ht]
  by_cases hb : c.toNat = 8
  · rw [if_pos hb, ← htoNat 8 hb]
    exact .inl ⟨'b', rfl, by decide, by decide⟩
  rw [if_neg hb]
  by_cases hf : c.toNat = 12
  · rw [if_pos hf, ← htoNat 12 hf]
    exact .inl ⟨'f', rfl, by decide, by decide⟩
  rw [if_neg hf]
  by_cases hcontrol : c.toNat < 32
  · rw [if_pos hcontrol]
    exact .inr (.inl ⟨hcontrol, rfl⟩)
  · rw [if_neg hcontrol]
    exact .inr (.inr ⟨rfl, hquote, hslash, hcontrol⟩)

/-- **The block of a character is read as that character.** -/
theorem stringBody_escapeChar (fuel : Nat) (acc : List Char) (c : Char) (rest : List Char) :
    Reading.stringBody (fuel + 1) acc (escapeChar c ++ rest)
      = Reading.stringBody fuel (c :: acc) rest := by
  obtain ⟨d, hblock, hu, hd⟩ | ⟨hcontrol, hblock⟩ | ⟨hblock, hquote, hslash, hplain⟩ :=
    escapeChar_cases c
  · rw [hblock]
    show Reading.stringBody (fuel + 1) acc ('\\' :: d :: rest) = _
    rw [Reading.stringBody.eq_5 acc fuel '\\' d rest hu, if_neg (by decide), if_pos rfl, hd]
  · rw [hblock]
    show Reading.stringBody (fuel + 1) acc ('\\' :: 'u' :: '0' :: '0' :: _ :: _ :: rest) = _
    rw [Reading.stringBody.eq_4, if_neg (by decide), if_pos rfl,
      hexEscape_digits (by omega)]
    dsimp only
    rw [unicodeEscape_of_lt (by omega), Char.ofNat_toNat]
  · rw [hblock]
    show Reading.stringBody (fuel + 1) acc (c :: rest) = _
    rw [Reading.stringBody.eq_def]
    dsimp only
    rw [if_neg hquote, if_neg hslash, if_neg hplain]

/-- The closing quote ends a string. -/
theorem stringBody_close (fuel : Nat) (acc rest : List Char) :
    Reading.stringBody (fuel + 1) acc ('"' :: rest) = .ok (acc.reverse, rest) := by
  rw [Reading.stringBody.eq_def]
  dsimp only
  rw [if_pos rfl]

/-! ## §2. Texts. -/

/-- All blocks of a text, up to the closing quote. -/
theorem stringBody_escaped (cs : List Char) :
    ∀ (fuel : Nat) (acc rest : List Char), cs.length < fuel →
      Reading.stringBody fuel acc (cs.flatMap escapeChar ++ '"' :: rest)
        = .ok (acc.reverse ++ cs, rest) := by
  -- on the text: each block takes one unit of fuel
  induction cs with
  | nil =>
    intro fuel acc rest hfuel
    obtain ⟨fuel, rfl⟩ := Nat.exists_eq_add_of_lt hfuel
    rw [List.append_nil]
    exact stringBody_close _ acc rest
  | cons c cs ih =>
    intro fuel acc rest hfuel
    cases fuel with
    | zero => cases hfuel
    | succ fuel =>
      rw [List.flatMap_cons, List.append_assoc, stringBody_escapeChar,
        ih fuel (c :: acc) rest (Nat.lt_of_succ_lt_succ hfuel), List.reverse_cons,
        List.append_assoc]
      rfl

theorem escapeChar_ne_nil (c : Char) : escapeChar c ≠ [] := by
  obtain ⟨d, hblock, -⟩ | ⟨-, hblock⟩ | ⟨hblock, -⟩ := escapeChar_cases c <;>
    rw [hblock] <;> exact List.cons_ne_nil _ _

theorem length_le_escaped (cs : List Char) : cs.length ≤ (cs.flatMap escapeChar).length := by
  induction cs with
  | nil => exact Nat.le_refl 0
  | cons c cs ih =>
    have hblock : 0 < (escapeChar c).length := List.length_pos_iff.mpr (escapeChar_ne_nil c)
    rw [List.flatMap_cons, List.length_append, List.length_cons]
    omega

/-- **A text in quotes is read back,** whatever follows it. -/
theorem stringToken_quote (cs rest : List Char) :
    Reading.stringToken (cs.flatMap escapeChar ++ '"' :: rest)
      = .read (.ok (String.ofList cs)) rest := by
  have hfuel : cs.length < (cs.flatMap escapeChar ++ '"' :: rest).length + 1 := by
    have hle := length_le_escaped cs
    rw [List.length_append]
    omega
  unfold Reading.stringToken
  dsimp only
  rw [stringBody_escaped cs _ [] rest hfuel]
  rfl

/-- The value of a text in quotes. -/
theorem readValue_quote (fuel : Nat) (cs rest : List Char) :
    Reading.readValue (fuel + 1) (quoteChars cs ++ rest)
      = (.str (.ok (String.ofList cs)), some rest) := by
  have hspace : Reading.skipSpace (quoteChars cs ++ rest)
      = '"' :: (cs.flatMap escapeChar ++ '"' :: rest) := by
    show Reading.skipSpace ('"' :: (cs.flatMap escapeChar ++ ['"'] ++ rest)) = _
    rw [List.append_assoc]
    rfl
  rw [Reading.readValue.eq_2, hspace]
  dsimp only
  rw [if_neg (by decide), if_neg (by decide), if_neg (by decide), if_pos rfl, stringToken_quote]

/-- **The document that is a text in quotes is that text.** -/
theorem parse_quote (s : String) : Json.parse (quote s) = .ok (.str s) := by
  have hvalue := readValue_quote (2 * (quoteChars s.toList).length + 1) s.toList []
  rw [List.append_nil, String.ofList_toList] at hvalue
  have htext : Reading.ofText (quote s) = ⟨.str (.ok s), false⟩ := by
    unfold Reading.ofText quote
    rw [String.toList_ofList]
    dsimp only
    rw [hvalue]
    rfl
  unfold Json.parse
  rw [htext]
  rfl

end Json

end SuiteRunner

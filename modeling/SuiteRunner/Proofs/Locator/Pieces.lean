import Mathlib.Data.List.Forall2
import SuiteRunner.Proofs.Locator.Splitting
import SuiteRunner.Proofs.Outside.Results

/-!
  SuiteRunner.Proofs.Locator.Pieces
  ────────────────────────────────
  **A SELECTOR SAYS WHAT ITS LOCATOR SAYS, PIECE BY PIECE.**

  A locator is a list of pieces: its base, its text options, its filters, its chain with the pieces of
  chained locators in place, and its index.  Cutting its selector gives the texts of these pieces back,
  whatever texts stand in them, as long as raw selectors do not bring quotes or separators with them.
  A nested locator is one piece, and what is quoted there is its whole selector:

    • `parts_pieces` — the parts of a selector are the texts of the pieces, in order,
    • `passes_text` — no piece is cut,
    • `Piece.Reads` — what the text of a piece says,
    • `splitSelector_selector` — the parts of a selector say what the pieces of its locator are.
-/

namespace SuiteRunner

open Selector

/-! ## §1. Pieces. -/

/-- A piece of a locator. -/
inductive Piece where
  | base (strategy value : String) (options : LocatorOptions)
  | filter (f : LocatorFilter)
  | nth (n : Int)

/-- The piece of an index. -/
def LocatorIndex.piece : LocatorIndex → Piece
  | .position n => .nth n
  | .first => .nth 0
  | .last => .nth (-1)

mutual
/-- **The pieces of a locator,** in order. -/
def Locator.pieces : Locator → List Piece
  | ⟨strategy, value, options, filter, filters, chain, index⟩ =>
    .base strategy value options
      :: (options.hasText.map fun t => .filter (.hasText t)).toList
      ++ (options.hasNotText.map fun t => .filter (.hasNotText t)).toList
      ++ filter.toList.map .filter
      ++ filters.map .filter
      ++ chainPieces chain
      ++ (index.map LocatorIndex.piece).toList

/-- The pieces of a chain operation. -/
def ChainOperation.pieces : ChainOperation → List Piece
  | .locator l => l.pieces
  | .filter f => [.filter f]
  | .nth n => [.nth n]
  | .first => [.nth 0]
  | .last => [.nth (-1)]

/-- The pieces of a chain, in order. -/
def chainPieces : List ChainOperation → List Piece
  | [] => []
  | op :: rest => op.pieces ++ chainPieces rest
end

namespace Piece

/-- The text of a piece. -/
def text : Piece → Except Failure String
  | base strategy value options =>
    match basePart? strategy value options with
    | some part => .ok part
    | none => .error (.unknownStrategy strategy)
  | filter f => f.part
  | nth n => .ok (nthPart n)

/-- Whether a piece has a text. -/
def Writes (p : Piece) (t : String) : Prop := p.text = .ok t

end Piece

/-! ## §2. The parts of a selector are the texts of the pieces. -/

open Piece (Writes)

/-- The base and its two text options are the first parts, and the first pieces. -/
theorem writes_base {strategy value : String} {o : LocatorOptions} {parts : List String}
    (h : baseParts strategy value o = .ok parts) :
    List.Forall₂ Writes
      (.base strategy value o :: (o.hasText.map fun t => Piece.filter (.hasText t)).toList
        ++ (o.hasNotText.map fun t => Piece.filter (.hasNotText t)).toList) parts := by
  unfold baseParts at h
  cases hbase : basePart? strategy value o with
  | none =>
    rw [hbase] at h
    cases h
  | some part =>
    rw [hbase] at h
    cases h
    have hpart : Writes (.base strategy value o) part := by
      simp only [Piece.Writes, Piece.text, hbase]
    have hhas : List.Forall₂ Writes (o.hasText.map fun t => Piece.filter (.hasText t)).toList
        (o.hasText.map hasTextPart).toList := by
      cases o.hasText with
      | none => exact .nil
      | some t => exact .cons rfl .nil
    have hhasNot : List.Forall₂ Writes
        (o.hasNotText.map fun t => Piece.filter (.hasNotText t)).toList
        (o.hasNotText.map hasNotTextPart).toList := by
      cases o.hasNotText with
      | none => exact .nil
      | some t => exact .cons rfl .nil
    exact List.rel_append (.cons hpart hhas) hhasNot

/-- A single filter is one part, if it is there. -/
theorem writes_filterOption {f : Option LocatorFilter} {parts : List String}
    (h : filterOptionParts f = .ok parts) :
    List.Forall₂ Writes (f.toList.map Piece.filter) parts := by
  cases f with
  | none =>
    cases h
    exact .nil
  | some f =>
    obtain ⟨part, hpart, rfl⟩ := map_eq_ok_iff.mp h
    exact .cons hpart .nil

/-- Filters are parts in their order. -/
theorem writes_filters (filters : List LocatorFilter) :
    ∀ {parts : List String}, filterListParts filters = .ok parts →
      List.Forall₂ Writes (filters.map Piece.filter) parts := by
  induction filters with
  | nil =>
    intro parts h
    cases h
    exact .nil
  | cons f rest ih =>
    intro parts h
    obtain ⟨part, hpart, hrest⟩ := bind_eq_ok_iff.mp h
    obtain ⟨more, hmore, hparts⟩ := bind_eq_ok_iff.mp hrest
    cases hparts
    exact .cons hpart (ih hmore)

theorem writes_index (index : Option LocatorIndex) :
    List.Forall₂ Writes (index.map LocatorIndex.piece).toList
      (index.map LocatorIndex.part).toList := by
  cases index with
  | none => exact .nil
  | some i => cases i <;> exact .cons rfl .nil

mutual
/-- **The parts of a selector are the texts of the pieces of its locator,** in order. -/
theorem parts_pieces : ∀ (l : Locator) {parts : List String}, l.parts = .ok parts →
    List.Forall₂ Writes l.pieces parts
  | ⟨strategy, value, options, filter, filters, chain, index⟩, parts, h => by
    obtain ⟨base, hbase, h₁⟩ := bind_eq_ok_iff.mp h
    obtain ⟨first, hfirst, h₂⟩ := bind_eq_ok_iff.mp h₁
    obtain ⟨narrowed, hnarrowed, h₃⟩ := bind_eq_ok_iff.mp h₂
    obtain ⟨chained, hchained, h₄⟩ := bind_eq_ok_iff.mp h₃
    cases h₄
    have hhead := List.rel_append (writes_base hbase) (writes_filterOption hfirst)
    have hnarrow := List.rel_append hhead (writes_filters filters hnarrowed)
    have hchain := List.rel_append hnarrow (chainParts_pieces chain hchained)
    exact List.rel_append hchain (writes_index index)

/-- An operation of a chain has the parts of its pieces. -/
theorem operationParts_pieces : ∀ (op : ChainOperation) {parts : List String},
    op.parts = .ok parts → List.Forall₂ Writes op.pieces parts
  | .locator l, parts, h => parts_pieces l h
  | .filter f, parts, h => by
    obtain ⟨part, hpart, rfl⟩ := map_eq_ok_iff.mp h
    exact .cons hpart .nil
  | .nth n, parts, h => by
    cases h
    exact .cons rfl .nil
  | .first, parts, h => by
    cases h
    exact .cons rfl .nil
  | .last, parts, h => by
    cases h
    exact .cons rfl .nil

/-- A chain has the parts of its operations, one after another. -/
theorem chainParts_pieces : ∀ (chain : List ChainOperation) {parts : List String},
    chainParts chain = .ok parts → List.Forall₂ Writes (chainPieces chain) parts
  | [], parts, h => by
    cases h
    exact .nil
  | op :: rest, parts, h => by
    obtain ⟨here, hhere, h₁⟩ := bind_eq_ok_iff.mp h
    obtain ⟨more, hmore, h₂⟩ := bind_eq_ok_iff.mp h₁
    cases h₂
    exact List.rel_append (operationParts_pieces op hhere) (chainParts_pieces rest hmore)
end

/-! ## §3. No piece is cut. -/

/-- The strategies whose value is part of the selector as it is. -/
def rawStrategies : List String := ["css", "xpath", "locator", "role"]

/-- A value without quotes and `>>`. -/
def Unquoted (value : String) : Prop :=
  '"' ∉ value.toList ∧ ¬(['>', '>'] <:+: value.toList)

/-- A piece whose value may stand in a selector as it is, if it does stand there as it is. -/
def Piece.Tame : Piece → Prop
  | .base strategy value _ => strategy ∈ rawStrategies → Unquoted value
  | _ => True

/-- Solid texts in a row are solid. -/
theorem solid_append {s t : String} (hs : Solid s.toList) (ht : Solid t.toList) :
    Solid (s ++ t).toList := by
  rw [String.toList_append]
  exact hs.append ht

/-- A text in double quotes is solid, whatever is quoted. -/
theorem solid_quote (t : String) : Solid (Json.quote t).toList := by
  unfold Json.quote
  rw [String.toList_ofList]
  exact solid_quoted (inside_flatMap inside_escapeChar t.toList)

/-- The letter after a literal. -/
theorem solid_suffix (exact : Bool) : Solid (if exact then "s" else "i").toList := by
  cases exact <;> exact solid_of_calm (by decide)

/-- A text to look for stands in quotes, and the flag after it does not matter. -/
theorem solid_textLiteral (t : String) (exact : Bool) : Solid (textLiteral t exact).toList :=
  solid_append (solid_quote t) (solid_suffix exact)

/-- The value of an attribute stands in quotes, too. -/
theorem solid_attributeLiteral (value : String) (exact : Bool) :
    Solid (attributeLiteral value exact).toList := by
  have hquoted : ("\"" ++ String.ofList (value.toList.flatMap attributeChar) ++ "\"").toList
      = '"' :: (value.toList.flatMap attributeChar ++ ['"']) := by
    have hmiddle : (String.ofList (value.toList.flatMap attributeChar)).toList
        = value.toList.flatMap attributeChar := String.toList_ofList
    rw [String.toList_append, String.toList_append, hmiddle]
    rfl
  apply solid_append _ (solid_suffix exact)
  rw [hquoted]
  exact solid_quoted (inside_flatMap inside_attributeChar value.toList)

/-- An attribute is solid if its name is, since its value stands in quotes. -/
theorem solid_attributePart {name : String} (hname : name.toList.all isCalm = true) (value : String)
    (exact : Bool) : Solid (attributePart name value exact).toList :=
  solid_append (solid_append (solid_append (solid_append (solid_of_calm (by decide))
    (solid_of_calm hname)) (solid_of_calm (by decide))) (solid_attributeLiteral value exact))
    (solid_of_calm (by decide))

theorem isCalm_of_isDigit {c : Char} (h : c.isDigit = true) : isCalm c = true := by
  have hquote : c ≠ '"' := fun heq => absurd (heq ▸ h) (by decide)
  have hblank : c ≠ ' ' := fun heq => absurd (heq ▸ h) (by decide)
  have hangle : c ≠ '>' := fun heq => absurd (heq ▸ h) (by decide)
  simp [isCalm, hquote, hblank, hangle]

/-- Numerals are solid. -/
theorem solid_natText (n : Nat) : Solid (toString n).toList := by
  rw [Nat.toString_eq_ofList_toDigits, String.toList_ofList]
  apply solid_of_calm
  rw [List.all_eq_true]
  intro c hc
  exact isCalm_of_isDigit (Nat.isDigit_of_mem_toDigits (by decide) (by decide) hc)

theorem solid_intText (n : Int) : Solid (toString n).toList := by
  cases n with
  | ofNat n => exact solid_natText n
  | negSucc n => exact solid_append (solid_of_calm (by decide)) (solid_natText (n + 1))

theorem solid_nthPart (n : Int) : Solid (nthPart n).toList :=
  solid_append (solid_of_calm (by decide)) (solid_intText n)

/-- An option of a role that is on or off is solid, and so is none. -/
theorem solid_flagText (name : String) (hname : name.toList.all isCalm = true)
    (flag : Option Bool) : Solid (flagText name flag).toList := by
  cases flag with
  | none => exact solid_nil
  | some b =>
    have hword : Solid (boolWord b).toList := by
      cases b <;> exact solid_of_calm (by decide)
    exact solid_append (solid_append (solid_append (solid_append (solid_of_calm (by decide))
      (solid_of_calm hname)) (solid_of_calm (by decide))) hword) (solid_of_calm (by decide))

/-- A raw value after a prefix. -/
theorem passes_raw {front value : String} (hfront : front.toList.all isCalm = true)
    (hvalue : Unquoted value) : Passes (front ++ value).toList := by
  rw [String.toList_append]
  exact (solid_of_calm hfront).append_passes (passes_of_raw hvalue.1 hvalue.2)

theorem passes_append {s t : String} (hs : Passes s.toList) (ht : Solid t.toList) :
    Passes (s ++ t).toList := by
  rw [String.toList_append]
  exact hs.append_solid ht

/-- **A role is not cut** if its name is free of quotes and separators, whatever its options say. -/
theorem passes_rolePart {role : String} (hrole : Unquoted role) (o : LocatorOptions) :
    Passes (rolePart role o).toList := by
  have hvalue : Passes ("internal:role=" ++ role).toList := passes_raw (by decide) hrole
  have hchecked := passes_append hvalue (solid_flagText "checked" (by decide) o.checked)
  have hdisabled := passes_append hchecked (solid_flagText "disabled" (by decide) o.disabled)
  have hselected := passes_append hdisabled (solid_flagText "selected" (by decide) o.selected)
  have hexpanded := passes_append hselected (solid_flagText "expanded" (by decide) o.expanded)
  have hhidden := passes_append hexpanded
    (solid_flagText "include-hidden" (by decide) o.includeHidden)
  refine passes_append (passes_append (passes_append hhidden ?_) ?_)
    (solid_flagText "pressed" (by decide) o.pressed)
  · cases o.level with
    | none => exact solid_nil
    | some n =>
      exact solid_append (solid_append (solid_of_calm (by decide)) (solid_natText n))
        (solid_of_calm (by decide))
  · cases o.name with
    | none => exact solid_nil
    | some name =>
      exact solid_append (solid_append (solid_of_calm (by decide)) (solid_attributeLiteral name _))
        (solid_of_calm (by decide))

/-- **The base of a locator is not cut.**  Only strategies that take a selector as it is ask
something of their value. -/
theorem passes_basePart {strategy value part : String} {o : LocatorOptions}
    (h : basePart? strategy value o = some part)
    (hraw : strategy ∈ rawStrategies → Unquoted value) : Passes part.toList := by
  unfold basePart? at h
  dsimp only at h
  split at h <;> cases h
  · exact passes_rolePart (hraw (by decide)) o
  · exact (solid_append (solid_of_calm (by decide)) (solid_textLiteral value _)).passes
  · exact (solid_append (solid_of_calm (by decide)) (solid_textLiteral value _)).passes
  · exact (solid_attributePart (by decide) value _).passes
  · exact (solid_attributePart (by decide) value _).passes
  · exact (solid_attributePart (by decide) value _).passes
  · exact (solid_append (solid_append (solid_of_calm (by decide))
      (solid_attributeLiteral value true)) (solid_of_calm (by decide))).passes
  · exact passes_raw (by decide) (hraw (by decide))
  · exact passes_raw (by decide) (hraw (by decide))
  · exact passes_of_raw (hraw (by decide)).1 (hraw (by decide)).2

/-- **No piece is cut,** whatever texts it was made of. -/
theorem passes_text {p : Piece} {t : String} (h : Writes p t) (htame : p.Tame) :
    Passes t.toList := by
  -- only a base can bring raw text with it; all other texts stand in quotes
  cases p with
  | base strategy value o =>
    unfold Piece.Writes Piece.text at h
    cases hbase : basePart? strategy value o with
    | none =>
      simp only [hbase, reduceCtorEq] at h
    | some part =>
      simp only [hbase, Except.ok.injEq] at h
      exact passes_basePart (h ▸ hbase) htame
  | nth n =>
    cases h
    exact (solid_nthPart n).passes
  | filter f =>
    cases f with
    | hasText v =>
      cases h
      exact (solid_append (solid_of_calm (by decide)) (solid_textLiteral v false)).passes
    | hasNotText v =>
      cases h
      exact (solid_append (solid_of_calm (by decide)) (solid_textLiteral v false)).passes
    | has l =>
      obtain ⟨parts, -, rfl⟩ := map_eq_ok_iff.mp h
      exact (solid_append (solid_of_calm (by decide)) (solid_quote _)).passes
    | hasNot l =>
      obtain ⟨parts, -, rfl⟩ := map_eq_ok_iff.mp h
      exact (solid_append (solid_of_calm (by decide)) (solid_quote _)).passes
    | visible =>
      cases h
      exact (solid_of_calm (by decide)).passes
    | hidden =>
      cases h
      exact (solid_of_calm (by decide)).passes

/-! ## §4. What the parts say. -/

/-- **What the text of a piece says.**  A nested locator is quoted: read as a document, the quoted
text is its whole selector. -/
inductive Piece.Reads : Piece → String → Prop where
  | base {strategy value part : String} {o : LocatorOptions}
      (h : basePart? strategy value o = some part) : Reads (.base strategy value o) part
  | hasText (v : String) : Reads (.filter (.hasText v)) (hasTextPart v)
  | hasNotText (v : String) : Reads (.filter (.hasNotText v)) (hasNotTextPart v)
  | has {l : Locator} {selector quoted : String} (h : l.selector = .ok selector)
      (hquoted : Json.parse quoted = .ok (.str selector)) :
      Reads (.filter (.has l)) ("internal:has=" ++ quoted)
  | hasNot {l : Locator} {selector quoted : String} (h : l.selector = .ok selector)
      (hquoted : Json.parse quoted = .ok (.str selector)) :
      Reads (.filter (.hasNot l)) ("internal:has-not=" ++ quoted)
  | visible : Reads (.filter .visible) "visible=true"
  | hidden : Reads (.filter .hidden) "visible=false"
  | nth (n : Int) : Reads (.nth n) ("nth=" ++ toString n)

/-- The text of a piece says what the piece is. -/
theorem reads_of_writes {p : Piece} {t : String} (h : Writes p t) : p.Reads t := by
  cases p with
  | base strategy value o =>
    unfold Piece.Writes Piece.text at h
    cases hbase : basePart? strategy value o with
    | none => simp only [hbase, reduceCtorEq] at h
    | some part =>
      simp only [hbase, Except.ok.injEq] at h
      exact .base (h ▸ hbase)
  | nth n =>
    cases h
    exact .nth n
  | filter f =>
    cases f with
    | hasText v =>
      cases h
      exact .hasText v
    | hasNotText v =>
      cases h
      exact .hasNotText v
    | has l =>
      -- a nested selector is quoted as a whole, so the quotes give it back
      obtain ⟨parts, hparts, rfl⟩ := map_eq_ok_iff.mp h
      exact .has (map_eq_ok_iff.mpr ⟨parts, hparts, rfl⟩) (Json.parse_quote _)
    | hasNot l =>
      obtain ⟨parts, hparts, rfl⟩ := map_eq_ok_iff.mp h
      exact .hasNot (map_eq_ok_iff.mpr ⟨parts, hparts, rfl⟩) (Json.parse_quote _)
    | visible =>
      cases h
      exact .visible
    | hidden =>
      cases h
      exact .hidden

/-- No part of a selector is cut if its pieces are tame. -/
theorem passes_of_writes {pieces : List Piece} {parts : List String}
    (h : List.Forall₂ Writes pieces parts) (htame : ∀ p ∈ pieces, p.Tame) :
    ∀ t ∈ parts, Passes t.toList := by
  induction h with
  | nil =>
    intro t ht
    cases ht
  | cons hpiece _ ih =>
    intro t ht
    obtain rfl | hmem := List.mem_cons.mp ht
    · exact passes_text hpiece (htame _ List.mem_cons_self)
    · exact ih (fun p hp => htame p (List.mem_cons_of_mem _ hp)) t hmem

/-- A locator has its base, so it has a piece. -/
theorem pieces_ne_nil (l : Locator) : l.pieces ≠ [] := by
  obtain ⟨strategy, value, options, filter, filters, chain, index⟩ := l
  exact List.cons_ne_nil _ _

/-- **CUTTING A SELECTOR GIVES ITS LOCATOR BACK, PIECE BY PIECE.**  This holds for all texts that are
put in quotes; raw selectors must not bring quotes or `>>` with them, unless they stand inside a
nested locator. -/
theorem splitSelector_selector {l : Locator} {selector : String} (h : l.selector = .ok selector)
    (htame : ∀ p ∈ l.pieces, p.Tame) :
    List.Forall₂ Piece.Reads l.pieces (splitSelector selector) := by
  obtain ⟨parts, hparts, rfl⟩ := map_eq_ok_iff.mp h
  have hwrites := parts_pieces l hparts
  have hne : parts ≠ [] := by
    rintro rfl
    exact pieces_ne_nil l (List.forall₂_nil_right_iff.mp hwrites)
  rw [splitSelector_join hne (passes_of_writes hwrites htame)]
  exact hwrites.imp fun _ _ => reads_of_writes

/-- A row of a list, with quotes and separators in its texts and in a nested locator. -/
def quotedRow : Locator :=
  ⟨"css", "#list", { hasText := some "a \" >> b" }, none, [.has (.plain "text" "x\\ >> \"y\"")],
    [.locator (.plain "role" "row")], some .last⟩

/-- Its selector has five parts, though six separators can be seen in it. -/
theorem splitSelector_quotedRow :
    ∃ selector, quotedRow.selector = .ok selector ∧ (∀ p ∈ quotedRow.pieces, p.Tame) ∧
      (splitSelector selector).length = 5 ∧
      List.Forall₂ Piece.Reads quotedRow.pieces (splitSelector selector) := by
  have htame : ∀ p ∈ quotedRow.pieces, p.Tame := by
    have hlist : Unquoted "#list" := ⟨by decide, by decide⟩
    have hrow : Unquoted "row" := ⟨by decide, by decide⟩
    refine List.forall_mem_cons.mpr ⟨fun _ => hlist, List.forall_mem_cons.mpr ⟨trivial, ?_⟩⟩
    refine List.forall_mem_cons.mpr ⟨trivial, List.forall_mem_cons.mpr ⟨fun _ => hrow, ?_⟩⟩
    exact List.forall_mem_cons.mpr ⟨trivial, List.forall_mem_nil _⟩
  have hreads := splitSelector_selector (l := quotedRow) rfl htame
  exact ⟨_, rfl, htame, hreads.length_eq.symm, hreads⟩

end SuiteRunner

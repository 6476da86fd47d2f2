import Mathlib.Data.List.Forall2
import SuiteRunner.Proofs.Json.Numbers
import SuiteRunner.Proofs.Text.Cutting
import SuiteRunner.Target

/-!
  SuiteRunner.Proofs.Target.Addresses
  ────────────────────────────────
  **ADDRESSES ARE READ BACK, AND NOTHING ELSE IS ACCEPTED.**

  The address of a target is its levels, each a key and a name with a colon between them, with
  ` > ` between the levels.  Blanks may stand around keys and names.

    • `level?_cut` — a level is cut at its first colon,
    • `levels?_eq_some_iff`, `levels?_eq_none_iff` — levels are read one by one,
    • `split_written` — the levels of a written address are what it is split into,
    • `parse_written` — an address is read back, with blanks or without,
    • `parse_error_iff` — a text is refused exactly if it is malformed, and for that reason,
    • `addresses_read_back` — both.
-/

namespace SuiteRunner

open SuiteRunner.Text (Blank Tight trimChars isBlank)

namespace Target

/-! ## §1. Addresses. -/

/-- The ids that a target names. -/
def ids : Target → List String
  | .suite i _ => [i]
  | .testCase i _ c _ => [i, c]
  | .dataItem i _ c _ _ _ => [i, c]

/-- The names that a target gives. -/
def names : Target → List String
  | .suite _ n => [n]
  | .testCase _ n _ cn => [n, cn]
  | .dataItem _ n _ cn _ dn => [n, cn, dn]

/-- The key and the name of each level. -/
def levels : Target → List (String × String)
  | .suite i n => [(i, n)]
  | .testCase i n c cn => [(i, n), (c, cn)]
  | .dataItem i n c cn k dn => [(i, n), (c, cn), (toString k, dn)]

/-- **The address of a target.** -/
def address (t : Target) : String :=
  levelSeparator.intercalate (t.levels.map fun l => l.1 ++ ":" ++ l.2)

/-- A text with blanks around it, or none. -/
def Padded (text padded : String) : Prop :=
  ∃ before after, Blank before ∧ Blank after ∧ padded.toList = before ++ text.toList ++ after

/-- A level with blanks around its key and its name. -/
def WrittenLevel (level : String × String) (piece : String) : Prop :=
  ∃ key name, Padded level.1 key ∧ Padded level.2 name ∧ piece = key ++ ":" ++ name

/-- **An address of a target with blanks around keys and names.** -/
def Written (t : Target) (address : String) : Prop :=
  ∃ pieces, List.Forall₂ WrittenLevel t.levels pieces ∧
    address = levelSeparator.intercalate pieces

/-- **A target that has an address:** no blanks at the ends of its texts, no `>` in them, no colon
in its ids, and a position within bounds. -/
structure Plain (t : Target) : Prop where
  tight : ∀ text ∈ t.ids ++ t.names, Tight text.toList
  unmarked : ∀ text ∈ t.ids ++ t.names, '>' ∉ text.toList
  keyed : ∀ i ∈ t.ids, ':' ∉ i.toList
  bounded : ∀ i name, t.data? = some (i, name) → i ≤ indexTop

theorem padded_self (text : String) : Padded text text :=
  ⟨[], [], Text.blank_nil, Text.blank_nil, by simp⟩

/-- Blanks around a text bring in no other character. -/
theorem Padded.lacks {c : Char} (hc : isBlank c = false) {text padded : String}
    (h : Padded text padded) (htext : c ∉ text.toList) : c ∉ padded.toList := by
  obtain ⟨before, after, hbefore, hafter, hpadded⟩ := h
  rw [hpadded]
  simp [hbefore.lacks hc, hafter.lacks hc, htext]

/-- Trimming takes the blanks off again. -/
theorem Padded.trimChars_eq {text padded : String} (h : Padded text padded)
    (htext : Tight text.toList) : trimChars padded.toList = text.toList := by
  obtain ⟨before, after, hbefore, hafter, hpadded⟩ := h
  rw [hpadded, Text.trimChars_padded hbefore hafter, htext.trimChars_eq]

theorem toList_piece (key name : String) :
    (key ++ ":" ++ name).toList = key.toList ++ ':' :: name.toList := by
  simp

/-- The address of a target is one of those that are written with blanks: there are none. -/
theorem written_address (t : Target) : t.Written t.address := by
  refine ⟨_, ?_, rfl⟩
  rw [List.forall₂_map_right_iff, List.forall₂_same]
  exact fun l _ => ⟨l.1, l.2, padded_self l.1, padded_self l.2, rfl⟩

/-! ## §2. Levels. -/

/-- **A level is cut at its first colon,** and key and name are trimmed. -/
theorem level?_cut {key : List Char} (hkey : ':' ∉ key) (name : List Char) :
    level? (key ++ ':' :: name)
      = some (String.ofList (trimChars key), String.ofList (trimChars name)) := by
  have hstart : ':' ∉ Text.trimStartChars key := fun h =>
    hkey ((List.dropWhile_sublist _).subset h)
  unfold level?
  rw [Text.trimChars_cut (by decide), Text.splitOnceChars?_first hstart, Option.map_some]
  simp only [Text.trimChars_trimStartChars, Text.trimChars_trimEndChars]

/-- **A piece is a level exactly if it has a colon.** -/
theorem level?_eq_none_iff {piece : List Char} : level? piece = none ↔ ':' ∉ piece := by
  constructor
  · intro h hcolon
    obtain ⟨key, name, rfl, hkey⟩ := List.eq_append_cons_of_mem hcolon
    rw [level?_cut hkey] at h
    cases h
  · intro h
    unfold level?
    rw [Text.splitOnceChars?_eq_none fun hc => h (Text.trimChars_subset piece hc)]
    rfl

/-- What a reader of levels relies on. -/
structure PlainLevel (level : String × String) : Prop where
  key : Tight level.1.toList
  name : Tight level.2.toList
  unmarked : '>' ∉ level.1.toList ∧ '>' ∉ level.2.toList
  keyed : ':' ∉ level.1.toList

/-- A level with blanks in it is read as what it was written for. -/
theorem WrittenLevel.level?_eq {level : String × String} {piece : String}
    (h : WrittenLevel level piece) (hplain : PlainLevel level) :
    level? piece.toList = some level := by
  obtain ⟨key, name, hkey, hname, rfl⟩ := h
  rw [toList_piece, level?_cut (hkey.lacks (by decide) hplain.keyed),
    hkey.trimChars_eq hplain.key, hname.trimChars_eq hplain.name, String.ofList_toList,
    String.ofList_toList]

theorem levels?_cons (p : List Char) (ps : List (List Char)) :
    levels? (p :: ps) = (level? p).bind fun l => (levels? ps).bind fun ls => some (l :: ls) := rfl

/-- Levels are read piece by piece. -/
theorem levels?_eq_some_iff {pieces : List (List Char)} :
    ∀ {ls : List (String × String)},
      levels? pieces = some ls ↔ List.Forall₂ (fun p l => level? p = some l) pieces ls := by
  induction pieces with
  | nil =>
    intro ls
    rw [List.forall₂_nil_left_iff]
    exact ⟨fun h => (Option.some.inj h).symm, fun h => h ▸ rfl⟩
  | cons p pieces ih =>
    intro ls
    rw [levels?_cons]
    simp only [Option.bind_eq_some_iff, ih, List.forall₂_cons_left_iff, Option.some.injEq]
    constructor
    · rintro ⟨l, hl, rest, hrest, rfl⟩
      exact ⟨l, rest, hl, hrest, rfl⟩
    · rintro ⟨l, rest, hl, hrest, rfl⟩
      exact ⟨l, hl, rest, hrest, rfl⟩

/-- Levels are not read exactly if one piece has no colon. -/
theorem levels?_eq_none_iff {pieces : List (List Char)} :
    levels? pieces = none ↔ ∃ p ∈ pieces, ':' ∉ p := by
  induction pieces with
  | nil => simp [levels?]
  | cons p pieces ih =>
    rw [List.exists_mem_cons_iff, ← ih, ← level?_eq_none_iff, levels?_cons]
    cases level? p with
    | none => simp
    | some l => cases levels? pieces <;> simp

/-! ## §3. Written addresses are read back. -/

/-- Digits are not blank. -/
theorem isBlank_of_isDigit {c : Char} (h : isDigit c = true) : isBlank c = false := by
  have hbounds : '0' ≤ c ∧ c ≤ '9' := by
    by_contra hnot
    unfold isDigit digitOf? at h
    rw [if_neg hnot] at h
    cases h
  have hlow : '0'.toNat ≤ c.toNat := hbounds.1
  have hhigh : c.toNat ≤ '9'.toNat := hbounds.2
  have h0 : '0'.toNat = 48 := rfl
  have h9 : '9'.toNat = 57 := rfl
  unfold isBlank
  simp
  omega

/-- In a plain target each level is plain. -/
theorem Plain.level {t : Target} (h : t.Plain) : ∀ l ∈ t.levels, PlainLevel l := by
  have htext : ∀ text ∈ t.ids ++ t.names, Tight text.toList ∧ '>' ∉ text.toList :=
    fun text ht => ⟨h.tight text ht, h.unmarked text ht⟩
  have hlevel : ∀ i ∈ t.ids, ∀ n ∈ t.names, PlainLevel (i, n) := fun i hi n hn =>
    { key := (htext i (List.mem_append_left _ hi)).1
      name := (htext n (List.mem_append_right _ hn)).1
      unmarked := ⟨(htext i (List.mem_append_left _ hi)).2,
        (htext n (List.mem_append_right _ hn)).2⟩
      keyed := h.keyed i hi }
  -- the key of the third level is a numeral
  have hdata : ∀ k : Nat, ∀ n ∈ t.names, PlainLevel (toString k, n) := fun k n hn => by
    have hdigit : ∀ c ∈ (toString k).toList, isDigit c = true := fun c hc =>
      isDigit_of_mem_digitsOf (toList_natText k ▸ hc)
    refine ⟨⟨fun c hc => ?_, fun c hc => ?_⟩, (htext n (List.mem_append_right _ hn)).1,
      ⟨fun hc => ?_, (htext n (List.mem_append_right _ hn)).2⟩, fun hc => ?_⟩
    · exact isBlank_of_isDigit (hdigit c (List.mem_of_head? hc))
    · exact isBlank_of_isDigit (hdigit c (List.mem_of_getLast? hc))
    · exact absurd (hdigit _ hc) (by decide)
    · exact absurd (hdigit _ hc) (by decide)
  cases t with
  | suite i n => simpa [levels, ids, names] using hlevel
  | testCase i n c cn =>
    simp only [levels, ids, names, List.mem_cons, List.not_mem_nil] at hlevel ⊢
    rintro l (rfl | rfl | h)
    · exact hlevel _ (.inl rfl) _ (.inl rfl)
    · exact hlevel _ (.inr (.inl rfl)) _ (.inr (.inl rfl))
    · exact h.elim
  | dataItem i n c cn k dn =>
    simp only [levels, ids, names, List.mem_cons, List.not_mem_nil] at hlevel hdata ⊢
    rintro l (rfl | rfl | rfl | h)
    · exact hlevel _ (.inl rfl) _ (.inl rfl)
    · exact hlevel _ (.inr (.inl rfl)) _ (.inr (.inl rfl))
    · exact hdata k _ (.inr (.inr (.inl rfl)))
    · exact h.elim

/-- The pieces of an address, one for each level. -/
def pieces (text : String) : List (List Char) :=
  Text.splitChars levelSeparator.toList text.toList

theorem pieces_ne_nil (text : String) : pieces text ≠ [] := Text.splitFrom_ne_nil _ _ _

/-- A level that is written with blanks has no `>` in it either. -/
theorem WrittenLevel.unmarked {level : String × String} {piece : String}
    (h : WrittenLevel level piece) (hplain : PlainLevel level) : '>' ∉ piece.toList := by
  obtain ⟨key, name, hkey, hname, rfl⟩ := h
  have hkeyFree := hkey.lacks (by decide) hplain.unmarked.1
  have hnameFree := hname.lacks (by decide) hplain.unmarked.2
  rw [toList_piece]
  simp [hkeyFree, hnameFree]

/-- **The pieces of a written address are its levels.** -/
theorem pieces_written {ps : List String} (hne : ps ≠ []) (hps : ∀ p ∈ ps, '>' ∉ p.toList) :
    pieces (levelSeparator.intercalate ps) = ps.map String.toList := by
  unfold pieces
  rw [String.toList_intercalate, Text.splitChars_intercalate (m := '>') (by decide)]
  · simpa using hne
  · simpa using hps

/-- What is read as levels, and as those of a target, is an address. -/
theorem parse_of_some {text : String} {t : Target}
    (h : levels? (pieces text) >>= ofLevels? = some t) : parse text = .ok t := by
  unfold pieces at h
  unfold parse
  rw [h]

/-- All else is refused, and the failure shows the text. -/
theorem parse_of_none {text : String} (h : levels? (pieces text) >>= ofLevels? = none) :
    parse text = .error (.targetFormat text) := by
  unfold pieces at h
  unfold parse
  rw [h]

/-- **The levels of a target are read as the target.** -/
theorem ofLevels?_levels {t : Target} (h : ∀ i name, t.data? = some (i, name) → i ≤ indexTop) :
    ofLevels? t.levels = some t := by
  cases t with
  | suite i n => rfl
  | testCase i n c cn => rfl
  | dataItem i n c cn k dn =>
    have hindex : natOfText? indexTop (toString k) = some k :=
      natOfText?_eq_some_iff.mpr ⟨numeralOf_natText k, h k dn rfl⟩
    show (natOfText? indexTop (toString k)).map _ = _
    rw [hindex]
    rfl

/-- **An address is read back,** whatever blanks stand around its keys and names. -/
theorem parse_written {t : Target} (ht : t.Plain) {text : String} (h : t.Written text) :
    parse text = .ok t := by
  obtain ⟨ps, hps, rfl⟩ := h
  have hread : List.Forall₂ (fun p l => '>' ∉ p.toList ∧ level? p.toList = some l) ps t.levels := by
    refine (List.Forall₂.imp ?_ ((List.forall₂_and_left _ _).mpr ⟨ht.level, hps⟩)).flip
    rintro l p ⟨hl, hp⟩
    exact ⟨hp.unmarked hl, hp.level?_eq hl⟩
  obtain ⟨hunmarked, hlevels⟩ := (List.forall₂_and_left _ _).mp hread
  have hne : ps ≠ [] := by
    rintro rfl
    cases t <;> cases hps
  have hpieces : levels? (pieces (levelSeparator.intercalate ps)) = some t.levels := by
    rw [pieces_written hne hunmarked, levels?_eq_some_iff, List.forall₂_map_left_iff]
    exact hlevels
  refine parse_of_some ?_
  rw [hpieces]
  exact ofLevels?_levels ht.bounded

/-! ## §4. What is refused. -/

/-- **A malformed address:** more than three pieces, a piece without a colon, or a third piece with
a key that is no position. -/
def Malformed (text : String) : Prop :=
  3 < (pieces text).length ∨ (∃ p ∈ pieces text, ':' ∉ p) ∨
    ∃ key name, (pieces text)[2]? = some (key ++ ':' :: name) ∧ ':' ∉ key ∧
      ¬∃ i ≤ indexTop, NumeralOf i (trimChars key)

/-- Levels are not those of a target if there are more than three, or if the third has a key that is
no position. -/
theorem ofLevels?_eq_none_iff {ls : List (String × String)} (hne : ls ≠ []) :
    ofLevels? ls = none ↔ 3 < ls.length ∨
      ∃ l, ls[2]? = some l ∧ ls.length = 3 ∧ natOfText? indexTop l.1 = none := by
  match ls, hne with
  | [_], _ => simp [ofLevels?]
  | [_, _], _ => simp [ofLevels?]
  | [_, _, (key, name)], _ => simp [ofLevels?]
  | _ :: _ :: _ :: _ :: _, _ => simp [ofLevels?]

/-- The levels of an address fail to make a target exactly if it is malformed. -/
theorem bind_ofLevels?_eq_none_iff (text : String) :
    levels? (pieces text) >>= ofLevels? = none ↔ Malformed text := by
  cases hlevels : levels? (pieces text) with
  | none => exact ⟨fun _ => .inr (.inl (levels?_eq_none_iff.mp hlevels)), fun _ => rfl⟩
  | some ls =>
    -- the levels stand in the places of the pieces, so there are as many and the third is the third
    have heach : (pieces text).map level? = ls.map some := by
      rw [← List.forall₂_eq_eq_eq, List.forall₂_map_left_iff, List.forall₂_map_right_iff]
      exact levels?_eq_some_iff.mp hlevels
    have hlength : (pieces text).length = ls.length := by
      simpa using congrArg List.length heach
    have hne : ls ≠ [] := by
      rintro rfl
      exact pieces_ne_nil text (List.length_eq_zero_iff.mp hlength)
    have hcolons : ∀ p ∈ pieces text, ':' ∈ p := by
      intro p hp
      by_contra hcolon
      rw [levels?_eq_none_iff.mpr ⟨p, hp, hcolon⟩] at hlevels
      cases hlevels
    have hthird : (pieces text)[2]?.map level? = ls[2]?.map some := by
      rw [← List.getElem?_map, ← List.getElem?_map, heach]
    show ofLevels? ls = none ↔ _
    rw [ofLevels?_eq_none_iff hne]
    constructor
    · rintro (hmany | ⟨l, hl, -, hindex⟩)
      · exact .inl (hlength ▸ hmany)
      · rw [hl] at hthird
        obtain ⟨p, hp, hlevel⟩ := Option.map_eq_some_iff.mp hthird
        obtain ⟨key, name, rfl, hkey⟩ :=
          List.eq_append_cons_of_mem (hcolons p (List.mem_of_getElem? hp))
        rw [level?_cut hkey] at hlevel
        cases hlevel
        refine .inr (.inr ⟨key, name, hp, hkey, ?_⟩)
        rw [natOfText?_eq_none_iff, String.toList_ofList] at hindex
        exact hindex
    · rintro (hmany | ⟨p, hp, hcolon⟩ | ⟨key, name, hp, hkey, hindex⟩)
      · exact .inl (hlength ▸ hmany)
      · exact absurd (hcolons p hp) hcolon
      · rw [hp, Option.map_some, level?_cut hkey] at hthird
        obtain ⟨l, hl, hlevel⟩ := Option.map_eq_some_iff.mp hthird.symm
        cases hlevel
        by_cases hmany : 3 < ls.length
        · exact .inl hmany
        · have hlong : 2 < ls.length := (List.getElem?_eq_some_iff.mp hl).1
          refine .inr ⟨_, hl, by omega, ?_⟩
          rw [natOfText?_eq_none_iff, String.toList_ofList]
          exact hindex

/-- **A text is refused exactly if it is malformed,** and the failure carries it unchanged. -/
theorem parse_error_iff (text : String) (f : Failure) :
    parse text = .error f ↔ Malformed text ∧ f = .targetFormat text := by
  rw [← bind_ofLevels?_eq_none_iff]
  cases hlevels : levels? (pieces text) >>= ofLevels? with
  | none => simp [parse_of_none hlevels, eq_comm]
  | some t => simp [parse_of_some hlevels]

/-- **ADDRESSES ARE READ BACK, AND NOTHING ELSE IS ACCEPTED.**  The address of a target is read as
that target, and so is an address with more blanks around its ids and names.  A text is refused
exactly if it has more than three pieces, a piece without a colon, or a third piece whose key is no
position, and then the failure carries the text unchanged. -/
theorem addresses_read_back (t : Target) (ht : t.Plain) :
    parse t.address = .ok t ∧
      (∀ text, t.Written text → parse text = .ok t) ∧
      ∀ (text : String) (f : Failure),
        parse text = .error f ↔ Malformed text ∧ f = .targetFormat text :=
  ⟨parse_written ht (written_address t), fun _ => parse_written ht, parse_error_iff⟩

/-- The last item there can be, in a case without an id whose name is a colon. -/
def lastItem : Target := .dataItem "s 1" "Users: all" "" ":" 18446744073709551615 ""

/-- Colons and blanks within texts, texts without characters and blanks around all of them. -/
theorem addresses_read_back_lastItem :
    lastItem.Plain ∧ lastItem.address = "s 1:Users: all > :: > 18446744073709551615:" ∧
      parse lastItem.address = .ok lastItem ∧
      lastItem.Written " s 1\t: Users: all  > \n :: > 18446744073709551615 :\u3000" ∧
      parse " s 1\t: Users: all  > \n :: > 18446744073709551615 :\u3000" = .ok lastItem ∧
      Malformed "a:b > c:d > 18446744073709551616:e" ∧
      parse "a:b > c:d > 18446744073709551616:e"
        = .error (.targetFormat "a:b > c:d > 18446744073709551616:e") := by
  have hplain : lastItem.Plain :=
    { tight := by decide
      unmarked := by decide
      keyed := by decide
      bounded := by
        rintro i name ⟨⟩
        exact Nat.le_refl _ }
  have hwritten :
      lastItem.Written " s 1\t: Users: all  > \n :: > 18446744073709551615 :\u3000" := by
    refine ⟨[" s 1\t: Users: all ", "\n ::", "18446744073709551615 :\u3000"], ?_, by decide⟩
    refine .cons ⟨" s 1\t", " Users: all ", ?_, ?_, by decide⟩ (.cons
      ⟨"\n ", ":", ?_, padded_self _, by decide⟩ (.cons
      ⟨"18446744073709551615 ", "\u3000", ?_, ?_, by decide⟩ .nil))
    · exact ⟨[' '], ['\t'], by decide, by decide, by decide⟩
    · exact ⟨[' '], [' '], by decide, by decide, by decide⟩
    · exact ⟨['\n', ' '], [], by decide, by decide, by decide⟩
    · exact ⟨[], [' '], by decide, by decide, by decide⟩
    · exact ⟨['\u3000'], [], by decide, by decide, by decide⟩
  obtain ⟨hread, hpad, hrefused⟩ := addresses_read_back lastItem hplain
  have herror : parse "a:b > c:d > 18446744073709551616:e"
      = .error (.targetFormat "a:b > c:d > 18446744073709551616:e") := by decide
  exact ⟨hplain, by decide, hread, hwritten, hpad _ hwritten,
    ((hrefused _ _).mp herror).1, herror⟩

end Target

end SuiteRunner

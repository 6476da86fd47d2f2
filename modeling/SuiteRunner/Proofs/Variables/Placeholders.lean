import SuiteRunner.Proofs.Text.Cutting
import SuiteRunner.Proofs.Variables.Lookups

/-!
  SuiteRunner.Proofs.Variables.Placeholders
  ────────────────────────────────
  **WHAT BECOMES OF A TEXT WITH PLACEHOLDERS.**

  A token is a run of characters other than braces between double braces.  A text is cut at its
  leftmost token, the rest of the text after that token at its leftmost one, and so on.  This
  module says what a token is and how a text is cut without reference to the scanner, and then
  that the scanner, and with it the filling of a text, does just that:

    • `names_iff` — a token has one name,
    • `head?_ways_iff` — a pattern with blanks around the name, read with backtracking, finds the
      tokens with their names,
    • `exists_cut`, `Cut.unique` — every text is cut in one way,
    • `pieces_of_cut` — the scanner takes a text to pieces at the cuts,
    • `fill_eq` — pieces are filled with the values of the store as it is at first,
    • `inject_one_pass` — a text is filled in one pass over its cuts.
-/

namespace SuiteRunner

open SuiteRunner.Text (isBlank trimChars)

namespace Template

/-! ## §1. Tokens. -/

/-- **A token:** a run of one or more characters other than braces.  It stands between double
braces. -/
structure Token where
  run : List Char
  nonempty : run ≠ []
  plain : ∀ c ∈ run, c ≠ '\x7b' ∧ c ≠ '\x7d'

/-- **The name that a run stands for:** the run without the blanks around it; of a run of blanks,
the last one. -/
inductive Names : List Char → List Char → Prop where
  | trimmed (before name after : List Char) (hne : name ≠ [])
      (hbefore : ∀ c ∈ before, isBlank c = true) (hafter : ∀ c ∈ after, isBlank c = true)
      (hfirst : ∀ c, name.head? = some c → isBlank c = false)
      (hlast : ∀ c, name.getLast? = some c → isBlank c = false) :
      Names (before ++ name ++ after) name
  | blank {run : List Char} {c : Char} (hblank : ∀ d ∈ run, isBlank d = true)
      (hlast : run.getLast? = some c) : Names run [c]

namespace Token

/-- The characters of a token. -/
def chars (t : Token) : List Char := '\x7b' :: '\x7b' :: (t.run ++ ['\x7d', '\x7d'])

/-- The name in a token. -/
def name (t : Token) : String := String.ofList (holeName t.run)

end Token

theorem notBrace_iff {c : Char} : notBrace c = true ↔ c ≠ '\x7b' ∧ c ≠ '\x7d' := by
  simp [notBrace]

theorem notBrace_of_isBlank {c : Char} (h : isBlank c = true) : notBrace c = true := by
  refine notBrace_iff.mpr ⟨?_, ?_⟩ <;>
    · rintro rfl
      exact absurd h (by decide)

/-- **The scanner gives a run its name.** -/
theorem Names.eq_holeName {run name : List Char} (h : Names run name) : name = holeName run := by
  cases h with
  | trimmed before _ after hne hbefore hafter hfirst hlast =>
    have htight : Text.Tight name := ⟨hfirst, hlast⟩
    have htrim : trimChars (before ++ name ++ after) = name := by
      rw [Text.trimChars_padded hbefore hafter, htight.trimChars_eq]
    unfold holeName
    rw [htrim]
    cases name with
    | nil => exact absurd rfl hne
    | cons c rest => rfl
  | @blank _ c hblank hlast =>
    have hnone : trimChars run = [] := Text.trimChars_blank hblank
    unfold holeName
    rw [hnone, hlast]
    rfl

/-- One more blank in front does not matter. -/
theorem Names.cons {c : Char} {run name : List Char} (hc : isBlank c = true) (h : Names run name) :
    Names (c :: run) name := by
  cases h with
  | trimmed before _ after hne hbefore hafter hfirst hlast =>
    exact .trimmed (c :: before) name after hne (by simpa [hc] using hbefore) hafter hfirst hlast
  | @blank _ d hblank hlast =>
    refine .blank (by simpa [hc] using hblank) ?_
    rw [List.getLast?_cons, hlast]
    rfl

/-! ## §2. The pattern. -/

namespace Pattern

/-- The ways to read any number of blanks: each with what is left, the most blanks first. -/
def blanks : List Char → List (List Char)
  | [] => [[]]
  | c :: rest => (if isBlank c then blanks rest else []) ++ [c :: rest]

/-- The ways to read one or more characters other than braces: each with what is left, the fewest
characters first. -/
def names : List Char → List (List Char × List Char)
  | [] => []
  | c :: rest =>
    if notBrace c then ([c], rest) :: (names rest).map fun (name, left) => (c :: name, left) else []

/-- The way to read two opening braces, if there is one. -/
def opened : List Char → List (List Char)
  | '\x7b' :: '\x7b' :: rest => [rest]
  | _ => []

/-- The way to read two closing braces, if there is one. -/
def closed : List Char → List (List Char)
  | '\x7d' :: '\x7d' :: rest => [rest]
  | _ => []

/-- The ways to read blanks and then closing braces. -/
def closing (cs : List Char) : List (List Char) := (blanks cs).flatMap closed

/-- The ways to read a name and what closes it. -/
def naming (cs : List Char) : List (List Char × List Char) :=
  (names cs).flatMap fun (name, left) => (closing left).map (name, ·)

/-- The ways to read blanks, a name and what closes it. -/
def padded (cs : List Char) : List (List Char × List Char) := (blanks cs).flatMap naming

/-- **The ways in which the pattern matches at the start of a text,** in the order in which
backtracking finds them: each with the name that it captures and what is left of the text. -/
def ways (cs : List Char) : List (List Char × List Char) := (opened cs).flatMap padded

/-! ### Closing. -/

theorem closed_cons {c : Char} (rest : List Char) (hc : c ≠ '\x7d') : closed (c :: rest) = [] := by
  unfold closed
  split
  · rename_i h
    exact absurd (List.cons.inj h).1 hc
  · rfl

theorem closing_cons (c : Char) (rest : List Char) :
    closing (c :: rest) = (if isBlank c then closing rest else []) ++ closed (c :: rest) := by
  unfold closing
  rw [blanks, List.flatMap_append, List.flatMap_singleton]
  cases isBlank c <;> rfl

/-- After blanks the braces are found. -/
theorem closing_blanks (after : List Char) (h : ∀ c ∈ after, isBlank c = true)
    (rest : List Char) : closing (after ++ '\x7d' :: '\x7d' :: rest) = [rest] := by
  induction after with
  | nil =>
    rw [List.nil_append, closing_cons]
    rfl
  | cons c after ih =>
    have hc : isBlank c = true := h c List.mem_cons_self
    have hbrace : c ≠ '\x7d' := (notBrace_iff.mp (notBrace_of_isBlank hc)).2
    rw [List.cons_append, closing_cons, if_pos hc, closed_cons _ hbrace, List.append_nil]
    exact ih fun d hd => h d (List.mem_cons_of_mem c hd)

/-- A character that is neither a blank nor a brace stands in the way. -/
theorem closing_eq_nil {run : List Char} (hplain : ∀ c ∈ run, notBrace c = true)
    (h : ∃ c ∈ run, isBlank c = false) (rest : List Char) : closing (run ++ rest) = [] := by
  induction run with
  | nil =>
    obtain ⟨c, hc, -⟩ := h
    cases hc
  | cons c run ih =>
    have hbrace : c ≠ '\x7d' := (notBrace_iff.mp (hplain c List.mem_cons_self)).2
    rw [List.cons_append, closing_cons, closed_cons _ hbrace, List.append_nil]
    cases hc : isBlank c with
    | false => rfl
    | true =>
      obtain ⟨d, hd, hblank⟩ := h
      refine ih (fun e he => hplain e (List.mem_cons_of_mem c he)) ⟨d, ?_, hblank⟩
      obtain rfl | hd := List.mem_cons.mp hd
      · rw [hc] at hblank
        cases hblank
      · exact hd

/-- What closes a name is blanks and two braces. -/
theorem mem_closing {cs rest : List Char} (h : rest ∈ closing cs) :
    ∃ after, (∀ c ∈ after, notBrace c = true) ∧ cs = after ++ '\x7d' :: '\x7d' :: rest := by
  induction cs with
  | nil => cases h
  | cons c cs ih =>
    rw [closing_cons, List.mem_append] at h
    -- either one more blank is passed over, or the braces stand here
    obtain h | h := h
    · cases hc : isBlank c with
      | false =>
        rw [hc] at h
        cases h
      | true =>
        rw [hc] at h
        obtain ⟨after, hafter, rfl⟩ := ih h
        refine ⟨c :: after, ?_, rfl⟩
        intro d hd
        obtain rfl | hd := List.mem_cons.mp hd
        · exact notBrace_of_isBlank hc
        · exact hafter d hd
    · refine ⟨[], by simp, ?_⟩
      unfold closed at h
      split at h
      · rename_i hcs
        rw [List.mem_singleton] at h
        rw [hcs, h]
        rfl
      · cases h

/-! ### Names. -/

theorem naming_cons (c : Char) (rest : List Char) :
    naming (c :: rest) =
      if notBrace c then
        (closing rest).map ([c], ·) ++ (naming rest).map fun (name, left) => (c :: name, left)
      else [] := by
  unfold naming
  rw [names]
  cases notBrace c with
  | false => rfl
  | true =>
    show (closing rest).map ([c], ·) ++ ((names rest).map _).flatMap _ = _
    rw [List.flatMap_map, List.map_flatMap]
    simp only [List.map_map]
    rfl

/-- **The first name that is found in a run** leaves nothing but blanks of it, and does not end
with a blank if it has more than one character. -/
theorem naming_run {c : Char} {run : List Char} (hplain : ∀ d ∈ c :: run, notBrace d = true)
    (rest : List Char) :
    ∃ name after, name ≠ [] ∧ c :: run = name ++ after ∧ (∀ d ∈ after, isBlank d = true) ∧
      (name = [c] ∨ ∀ d, name.getLast? = some d → isBlank d = false) ∧
      (naming (c :: run ++ '\x7d' :: '\x7d' :: rest)).head? = some (name, rest) := by
  have hc : notBrace c = true := hplain c List.mem_cons_self
  have hrun : ∀ d ∈ run, notBrace d = true := fun d hd => hplain d (List.mem_cons_of_mem c hd)
  -- on the run: the name ends as soon as only blanks are left
  induction run generalizing c with
  | nil =>
    refine ⟨[c], [], by simp, rfl, by simp, .inl rfl, ?_⟩
    rw [List.cons_append, naming_cons, if_pos hc, closing_blanks [] (by simp)]
    rfl
  | cons d run ih =>
    rw [List.cons_append, naming_cons, if_pos hc]
    by_cases hsome : ∃ e ∈ d :: run, isBlank e = false
    · -- more than blanks is left, so no braces are found here and the name goes on
      obtain ⟨name, after, hne, heq, hafter, hlast, hhead⟩ :=
        ih hrun (hrun d List.mem_cons_self) fun e he => hrun e (List.mem_cons_of_mem d he)
      obtain ⟨x, hx, hxblank⟩ := hsome
      have hlast : ∀ e, name.getLast? = some e → isBlank e = false := by
        obtain rfl | hlast := hlast
        · -- the name is one character, and what follows it is blank, so it is `x`
          have hxd : x = d := by
            rw [heq, List.mem_append, List.mem_singleton] at hx
            refine hx.resolve_right fun hx => ?_
            rw [hafter x hx] at hxblank
            cases hxblank
          intro e he
          cases he
          rwa [← hxd]
        · exact hlast
      refine ⟨c :: name, after, by simp, congrArg (c :: ·) heq, hafter, .inr ?_, ?_⟩
      · cases name with
        | nil => exact absurd rfl hne
        | cons n name => exact fun e he => hlast e he
      · rw [closing_eq_nil hrun ⟨x, hx, hxblank⟩, List.map_nil, List.nil_append, List.head?_map,
          hhead]
        rfl
    · -- only blanks are left, so the name ends here
      have hblank : ∀ e ∈ d :: run, isBlank e = true :=
        fun e he => Bool.of_not_eq_false fun h => hsome ⟨e, he, h⟩
      refine ⟨[c], d :: run, by simp, rfl, hblank, .inl rfl, ?_⟩
      rw [closing_blanks _ hblank]
      rfl

/-- A name is the start of a run that is closed. -/
theorem mem_naming {cs name rest : List Char} (h : (name, rest) ∈ naming cs) :
    ∃ run, run ≠ [] ∧ (∀ c ∈ run, notBrace c = true) ∧ cs = run ++ '\x7d' :: '\x7d' :: rest := by
  induction cs generalizing name with
  | nil => cases h
  | cons c cs ih =>
    rw [naming_cons] at h
    cases hc : notBrace c with
    | false =>
      rw [hc] at h
      cases h
    | true =>
      rw [hc, if_pos rfl, List.mem_append, List.mem_map, List.mem_map] at h
      obtain ⟨left, hleft, heq⟩ | ⟨⟨name, left⟩, hleft, heq⟩ := h
      · cases heq
        obtain ⟨after, hafter, rfl⟩ := mem_closing hleft
        exact ⟨c :: after, by simp, by simpa [hc] using hafter, rfl⟩
      · cases heq
        obtain ⟨run, -, hrun, rfl⟩ := ih hleft
        exact ⟨c :: run, by simp, by simpa [hc] using hrun, rfl⟩

/-! ### Blanks before the name. -/

theorem padded_cons (c : Char) (rest : List Char) :
    padded (c :: rest) = (if isBlank c then padded rest else []) ++ naming (c :: rest) := by
  unfold padded
  rw [blanks, List.flatMap_append, List.flatMap_singleton]
  cases isBlank c <;> rfl

/-- What is read between double braces is a run. -/
theorem mem_padded {cs name rest : List Char} (h : (name, rest) ∈ padded cs) :
    ∃ run, run ≠ [] ∧ (∀ c ∈ run, notBrace c = true) ∧ cs = run ++ '\x7d' :: '\x7d' :: rest := by
  induction cs with
  | nil => cases h
  | cons c cs ih =>
    rw [padded_cons, List.mem_append] at h
    obtain h | h := h
    · cases hc : isBlank c with
      | false =>
        rw [hc] at h
        cases h
      | true =>
        rw [hc] at h
        obtain ⟨run, -, hrun, rfl⟩ := ih h
        exact ⟨c :: run, by simp, by simpa [notBrace_of_isBlank hc] using hrun, rfl⟩
    · exact mem_naming h

/-- **The first way to read a run finds its name.** -/
theorem padded_run {run : List Char} (hne : run ≠ []) (hplain : ∀ c ∈ run, notBrace c = true)
    (rest : List Char) :
    ∃ name, Names run name ∧
      (padded (run ++ '\x7d' :: '\x7d' :: rest)).head? = some (name, rest) := by
  -- on the run: as many blanks as can be are read first, and one is given back if nothing is left
  induction run with
  | nil => exact absurd rfl hne
  | cons c run ih =>
    rw [List.cons_append, padded_cons]
    cases hc : isBlank c with
    | false =>
      -- the name begins here
      obtain ⟨name, after, hnil, heq, hafter, hlast, hhead⟩ := naming_run hplain rest
      refine ⟨name, ?_, hhead⟩
      rw [heq]
      refine .trimmed [] name after hnil (by simp) hafter ?_ ?_
      · intro d hd
        cases name with
        | nil => exact absurd rfl hnil
        | cons n name =>
          cases heq
          cases hd
          exact hc
      · obtain rfl | hlast := hlast
        · intro d hd
          cases hd
          exact hc
        · exact hlast
    | true =>
      rw [if_pos rfl]
      cases run with
      | nil =>
        -- nothing is left for a name but this blank
        refine ⟨[c], .blank (by simpa using hc) rfl, ?_⟩
        obtain ⟨name, after, hnil, heq, -, -, hhead⟩ := naming_run hplain rest
        have hname : name = [c] := by
          cases name with
          | nil => exact absurd rfl hnil
          | cons n name =>
            obtain ⟨rfl, hrest⟩ := List.cons.inj heq
            rw [(List.append_eq_nil_iff.mp hrest.symm).1]
        rw [hname] at hhead
        exact hhead
      | cons d run =>
        obtain ⟨name, hname, hhead⟩ := ih (by simp) fun e he => hplain e (List.mem_cons_of_mem c he)
        refine ⟨name, hname.cons hc, ?_⟩
        rw [List.head?_append, hhead]
        rfl

end Pattern

theorem Token.notBrace_run (t : Token) : ∀ c ∈ t.run, notBrace c = true :=
  fun c hc => notBrace_iff.mpr (t.plain c hc)

theorem Token.chars_append (t : Token) (rest : List Char) :
    t.chars ++ rest = '\x7b' :: '\x7b' :: (t.run ++ '\x7d' :: '\x7d' :: rest) := by
  simp [chars]

/-- **A token has one name.** -/
theorem names_iff (t : Token) {name : List Char} :
    Names t.run name ↔ String.ofList name = t.name := by
  constructor
  · intro h
    rw [h.eq_holeName]
    rfl
  · intro h
    obtain ⟨name', hname, -⟩ := Pattern.padded_run t.nonempty t.notBrace_run []
    have heq : name = name' := by
      rw [hname.eq_holeName]
      exact String.ofList_injective h
    rwa [heq]

/-- **The pattern finds the tokens.**  Its first match at the start of a text, if it has any, is a
token; it captures the name of the token and leaves what follows the token. -/
theorem head?_ways_iff {cs name rest : List Char} :
    (Pattern.ways cs).head? = some (name, rest) ↔
      ∃ t : Token, cs = t.chars ++ rest ∧ Names t.run name := by
  have hopened : ∀ cs, Pattern.ways ('\x7b' :: '\x7b' :: cs) = Pattern.padded cs :=
    fun _ => List.append_nil _
  constructor
  · intro h
    obtain ⟨left, hleft, hmem⟩ := List.mem_flatMap.mp (List.mem_of_mem_head? h)
    unfold Pattern.opened at hleft
    split at hleft
    · obtain rfl := List.mem_singleton.mp hleft
      obtain ⟨run, hne, hplain, rfl⟩ := Pattern.mem_padded hmem
      let t : Token := ⟨run, hne, fun c hc => notBrace_iff.mp (hplain c hc)⟩
      obtain ⟨name', hname, hhead⟩ := Pattern.padded_run hne hplain rest
      rw [hopened, hhead] at h
      obtain ⟨rfl, -⟩ := Prod.mk.inj (Option.some.inj h)
      exact ⟨t, (t.chars_append rest).symm, hname⟩
    · cases hleft
  · rintro ⟨t, rfl, hname⟩
    obtain ⟨name', hname', hhead⟩ := Pattern.padded_run t.nonempty t.notBrace_run rest
    rw [t.chars_append, hopened, hhead, hname.eq_holeName, hname'.eq_holeName]

/-! ## §3. Cuts. -/

/-- **A text cut at its tokens.**  Each cut is a token with the text that stands before it, in
which no token begins; after the last one there is none. -/
inductive Cut : List Char → List (List Char × Token) → List Char → Prop where
  | last {text : List Char} (hnone : ∀ t : Token, ¬ t.chars <:+: text) : Cut text [] text
  | token (before : List Char) {rest tail : List Char} {t : Token} {cuts : List (List Char × Token)}
      (hfirst : ∀ i < before.length, ∀ u : Token,
        ¬ u.chars <+: (before ++ (t.chars ++ rest)).drop i)
      (hrest : Cut rest cuts tail) :
      Cut (before ++ (t.chars ++ rest)) ((before, t) :: cuts) tail

/-- **The scanner finds a token,** and how long it is. -/
theorem holeAt?_token (t : Token) (rest : List Char) :
    holeAt? (t.chars ++ rest) = some (t.name, t.chars.length) := by
  have hbrace : ¬ notBrace '\x7d' = true := by decide
  have htake : (t.run ++ '\x7d' :: '\x7d' :: rest).takeWhile notBrace = t.run := by
    rw [List.takeWhile_append_of_pos t.notBrace_run, List.takeWhile_cons_of_neg hbrace,
      List.append_nil]
  have hdrop : (t.run ++ '\x7d' :: '\x7d' :: rest).dropWhile notBrace
      = '\x7d' :: '\x7d' :: rest := by
    rw [List.dropWhile_append_of_pos t.notBrace_run, List.dropWhile_cons_of_neg hbrace]
  have hlength : t.chars.length = t.run.length + 4 := by simp [Token.chars]
  rw [t.chars_append, hlength]
  unfold holeAt? Token.name
  simp only [htake, hdrop]
  cases hrun : t.run with
  | nil => exact absurd hrun t.nonempty
  | cons c run => rfl

/-- The scanner finds nothing but tokens. -/
theorem exists_token_of_holeAt? {cs : List Char} {hole : String × Nat}
    (h : holeAt? cs = some hole) :
    ∃ (t : Token) (rest : List Char), cs = t.chars ++ rest := by
  unfold holeAt? at h
  split at h
  · rename_i rest
    dsimp only at h
    split at h
    · rename_i c run after hrun hafter
      have hplain : ∀ d ∈ rest.takeWhile notBrace, notBrace d = true :=
        fun d hd => List.all_eq_true.mp List.all_takeWhile d hd
      let t : Token := ⟨rest.takeWhile notBrace, by rw [hrun]; simp,
        fun d hd => notBrace_iff.mp (hplain d hd)⟩
      refine ⟨t, after, ?_⟩
      rw [t.chars_append, ← hafter, List.takeWhile_append_dropWhile]
    · cases h
  · cases h

/-- Where no token begins, the scanner finds none. -/
theorem holeAt?_eq_none {cs : List Char} (h : ∀ t : Token, ¬ t.chars <+: cs) :
    holeAt? cs = none := by
  cases hhole : holeAt? cs with
  | none => rfl
  | some hole =>
    obtain ⟨t, rest, rfl⟩ := exists_token_of_holeAt? hhole
    exact absurd (List.prefix_append _ _) (h t)

/-- At most one token begins at a place. -/
theorem Token.eq_of_append {t u : Token} {rest left : List Char}
    (h : t.chars ++ rest = u.chars ++ left) : t = u ∧ rest = left := by
  have hlength : t.chars.length = u.chars.length := by
    have hholes := (holeAt?_token t rest).symm.trans (h ▸ holeAt?_token u left)
    exact (Prod.mk.inj (Option.some.inj hholes)).2
  obtain ⟨hchars, hrest⟩ := List.append_inj h hlength
  refine ⟨?_, hrest⟩
  have hrun : t.run ++ ['\x7d', '\x7d'] = u.run ++ ['\x7d', '\x7d'] :=
    (List.cons.inj (List.cons.inj hchars).2).2
  obtain ⟨run, _, _⟩ := t
  obtain ⟨run', _, _⟩ := u
  obtain rfl : run = run' := List.append_cancel_right hrun
  rfl

/-- **Every text can be cut.** -/
theorem exists_cut (text : List Char) : ∃ cuts tail, Cut text cuts tail := by
  -- on the length: what is left after a token, or after one character, is shorter
  induction hn : text.length using Nat.strongRecOn generalizing text with
  | ind n ih =>
    subst hn
    by_cases htoken : ∃ t : Token, t.chars <+: text
    · obtain ⟨t, rest, rfl⟩ := htoken
      obtain ⟨cuts, tail, hcut⟩ := ih rest.length (by simp [Token.chars]; omega) rest rfl
      exact ⟨([], t) :: cuts, tail, .token [] (by simp) hcut⟩
    · -- the first character belongs to the text before the first token of the others
      have hnone : ∀ t : Token, ¬ t.chars <+: text := fun t h => htoken ⟨t, h⟩
      cases text with
      | nil =>
        refine ⟨[], [], .last fun t h => ?_⟩
        exact hnone t (List.infix_nil.mp h ▸ List.prefix_refl _)
      | cons c text =>
        obtain ⟨cuts, tail, hcut⟩ := ih text.length (by simp) text rfl
        cases hcut with
        | last hlast =>
          refine ⟨[], c :: text, .last fun t h => ?_⟩
          obtain h | h := List.infix_cons_iff.mp h
          · exact hnone t h
          · exact hlast t h
        | @token before rest _ t cuts hfirst hrest =>
          refine ⟨(c :: before, t) :: cuts, tail, .token (c :: before) ?_ hrest⟩
          intro i hi u hu
          cases i with
          | zero => exact hnone u hu
          | succ i => exact hfirst i (Nat.lt_of_succ_lt_succ hi) u hu

/-- Where the text before a cut ends is no later than any token. -/
theorem length_le_of_first {before before' rest rest' : List Char} {t t' : Token}
    (heq : before ++ (t.chars ++ rest) = before' ++ (t'.chars ++ rest'))
    (hfirst : ∀ i < before.length, ∀ u : Token,
      ¬ u.chars <+: (before ++ (t.chars ++ rest)).drop i) :
    before.length ≤ before'.length := by
  refine Nat.le_of_not_lt fun hlt => hfirst _ hlt t' ?_
  rw [heq, List.drop_left]
  exact List.prefix_append _ _

/-- **A text is cut in one way only.** -/
theorem Cut.unique {text : List Char} {cuts cuts' : List (List Char × Token)}
    {tail tail' : List Char} (h : Cut text cuts tail) (h' : Cut text cuts' tail') :
    cuts' = cuts ∧ tail' = tail := by
  induction h generalizing cuts' with
  | @last text hnone =>
    cases h' with
    | last => exact ⟨rfl, rfl⟩
    | @token before rest _ t => exact absurd ⟨before, rest, by rw [List.append_assoc]⟩ (hnone t)
  | @token before rest tail t cuts hfirst _ ih =>
    generalize heq : before ++ (t.chars ++ rest) = text at h'
    cases h' with
    | last hnone => exact absurd ⟨before, rest, by rw [List.append_assoc, heq]⟩ (hnone t)
    | @token before' rest' _ t' cuts' hfirst' hrest' =>
      -- neither first token begins before the other, so they are one token
      have hlength : before.length = before'.length :=
        Nat.le_antisymm (length_le_of_first heq hfirst) (length_le_of_first heq.symm hfirst')
      obtain ⟨rfl, htoken⟩ := List.append_inj heq hlength
      obtain ⟨rfl, rfl⟩ := Token.eq_of_append htoken
      obtain ⟨rfl, rfl⟩ := ih hrest'
      exact ⟨rfl, rfl⟩

/-! ## §4. The pieces of a text. -/

/-- The pieces that cuts stand for. -/
def piecesOf : List (List Char × Token) → List Char → List Piece
  | [], tail => tail.map .char
  | (before, t) :: cuts, tail => before.map .char ++ .hole t.name :: piecesOf cuts tail

theorem piecesFrom_skip (n : Nat) (cs : List Char) :
    piecesFrom n cs = piecesFrom 0 (cs.drop n) := by
  induction cs generalizing n with
  | nil =>
    rw [List.drop_nil]
    cases n <;> rfl
  | cons c cs ih =>
    cases n with
    | zero => rfl
    | succ n => exact ih n

/-- Text in which no token begins is taken as it is. -/
theorem piecesFrom_plain (before rest : List Char)
    (hfirst : ∀ i < before.length, ∀ u : Token, ¬ u.chars <+: (before ++ rest).drop i) :
    piecesFrom 0 (before ++ rest) = before.map .char ++ piecesFrom 0 rest := by
  induction before with
  | nil => rfl
  | cons c before ih =>
    have hhole : holeAt? (c :: (before ++ rest)) = none := holeAt?_eq_none (hfirst 0 (by simp))
    rw [List.cons_append, piecesFrom, hhole]
    exact congrArg (.char c :: ·)
      (ih fun i hi u hu => hfirst (i + 1) (Nat.succ_lt_succ hi) u hu)

/-- A token is a hole. -/
theorem piecesFrom_token (t : Token) (rest : List Char) :
    piecesFrom 0 (t.chars ++ rest) = .hole t.name :: piecesFrom 0 rest := by
  have hhole := holeAt?_token t rest
  have hcons : t.chars ++ rest = '\x7b' :: (t.chars.tail ++ rest) := rfl
  rw [hcons] at hhole ⊢
  rw [piecesFrom, hhole]
  show .hole t.name :: piecesFrom (t.chars.length - 1) (t.chars.tail ++ rest) = _
  rw [piecesFrom_skip, ← List.length_tail, List.drop_left]

/-- **The scanner takes a text to pieces at its cuts.** -/
theorem piecesFrom_of_cut {text : List Char} {cuts : List (List Char × Token)} {tail : List Char}
    (h : Cut text cuts tail) : piecesFrom 0 text = piecesOf cuts tail := by
  induction h with
  | @last text hnone =>
    have hplain := piecesFrom_plain text [] fun i _ u hu => hnone u <| by
      rw [List.append_nil] at hu
      exact hu.isInfix.trans (List.drop_suffix i text).isInfix
    rw [List.append_nil] at hplain
    rw [hplain]
    exact List.append_nil _
  | @token before rest tail t cuts hfirst _ ih =>
    rw [piecesFrom_plain before _ hfirst, piecesFrom_token, ih]
    rfl

end Template

namespace Store

open Template (Token Cut Names piecesOf)

/-! ## §5. Filling. -/

/-- The value that a name has for an owner; the empty text if it has none. -/
def valueOrEmpty (s : Store) (o : Owner) (name : String) : String := (s.get o name).1.getD ""

/-- What a piece becomes. -/
def pieceText (s : Store) (o : Owner) : Template.Piece → List Char
  | .char c => [c]
  | .hole name => (s.valueOrEmpty o name).toList

/-- **Pieces are filled with the values that the store has at first,** although each look-up may
leave another store to the next. -/
theorem fill_eq (o : Owner) (ps : List Template.Piece) (s : Store) :
    (fill o ps s).1 = ps.flatMap (s.pieceText o) := by
  suffices ∀ m : Store, (∀ n, (m.get o n).1 = (s.get o n).1) →
      (fill o ps m).1 = ps.flatMap (s.pieceText o) from this s fun _ => rfl
  induction ps with
  | nil => exact fun _ _ => rfl
  | cons p ps ih =>
    intro m hm
    cases p with
    | char c => exact congrArg (c :: ·) (ih m hm)
    | hole name =>
      have hrest := ih (m.get o name).2 fun n => (get_get m o name n).trans (hm n)
      show ((m.get o name).1.getD "").toList ++ (fill o ps (m.get o name).2).1 = _
      rw [hrest, hm name]
      rfl

/-- The text that cuts become when each token gives way to a value. -/
def filled (value : String → String) : List (List Char × Token) → List Char → List Char
  | [], tail => tail
  | (before, t) :: cuts, tail => before ++ ((value t.name).toList ++ filled value cuts tail)

theorem flatMap_piecesOf (s : Store) (o : Owner) (cuts : List (List Char × Token))
    (tail : List Char) :
    (piecesOf cuts tail).flatMap (s.pieceText o) = filled (s.valueOrEmpty o) cuts tail := by
  have hplain : ∀ cs : List Char, (cs.map Template.Piece.char).flatMap (s.pieceText o) = cs := by
    intro cs
    rw [List.flatMap_map]
    exact List.flatMap_singleton' cs
  induction cuts with
  | nil => exact hplain tail
  | cons cut cuts ih =>
    obtain ⟨before, t⟩ := cut
    show (before.map Template.Piece.char
      ++ Template.Piece.hole t.name :: piecesOf cuts tail).flatMap _ = _
    rw [List.flatMap_append, hplain, List.flatMap_cons, ih]
    rfl

/-- **FILLING A TEXT IS ONE PASS OVER ITS TOKENS,** from the left.  A text has one and only one
way to be cut at its tokens.  When it is filled, each token gives way to the value that its name has
in the store as it is at first, or to nothing if it has none, and the text between the tokens stays
as it is.  A token is what the pattern matches, and its name is what the pattern captures. -/
theorem inject_one_pass (s : Store) (o : Owner) (text : String) :
    (∃ cuts tail, Cut text.toList cuts tail ∧
      (∀ cuts' tail', Cut text.toList cuts' tail' → cuts' = cuts ∧ tail' = tail) ∧
      (s.inject o text).1 = String.ofList (filled (s.valueOrEmpty o) cuts tail)) ∧
    (∀ (t : Token) (name : List Char), Names t.run name ↔ String.ofList name = t.name) ∧
    (∀ cs name rest, (Template.Pattern.ways cs).head? = some (name, rest) ↔
      ∃ t : Token, cs = t.chars ++ rest ∧ Names t.run name) := by
  obtain ⟨cuts, tail, hcut⟩ := Template.exists_cut text.toList
  refine ⟨⟨cuts, tail, hcut, fun _ _ hcut' => hcut.unique hcut', ?_⟩,
    fun t _ => Template.names_iff t, fun _ _ _ => Template.head?_ways_iff⟩
  show String.ofList (fill o (Template.piecesFrom 0 text.toList) s).1 = _
  rw [fill_eq, Template.piecesFrom_of_cut hcut, flatMap_piecesOf]

/-- Of three braces the outer one stays, and a value with braces is not filled again. -/
example :
    let s := (ofRegistry none).setGlobal "x" "\x7b\x7by\x7d\x7d"
    (s.inject ⟨"", ""⟩ "\x7b\x7b\x7b x \x7d\x7d\x7d \x7b\x7b\x7d\x7d\x7b\x7b").1
      = "\x7b\x7b\x7by\x7d\x7d\x7d \x7b\x7b\x7d\x7d\x7b\x7b" := by
  decide

end Store

end SuiteRunner

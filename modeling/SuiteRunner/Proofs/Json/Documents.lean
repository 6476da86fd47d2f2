import SuiteRunner.Proofs.Json.Numbers
import SuiteRunner.Proofs.Json.Strings

/-!
  SuiteRunner.Proofs.Json.Documents
  ────────────────────────────────
  **A DOCUMENT IS READ BACK.**

  The indented text of a document without doubles is read as that document.  A list is read item by
  item: the first one follows the bracket, each further one a comma, and the bracket that closes the
  list stands on a line of its own.  Objects are read in the same way.

    • `skipSpace_newline` — the blanks of a new line are passed over,
    • `readValue_pretty` — the text of a value is read as the value, whatever follows it,
    • `ofText_pretty` — the text of a document is read as the document.
-/

namespace SuiteRunner

namespace Json

mutual
/-- A document in which every number is an integer of 64 bits. -/
def Plain : Json → Prop
  | .num (.int n) => Reading.Fits n
  | .num (.float _) => False
  | .arr xs => PlainItems xs
  | .obj ms => PlainMembers ms
  | _ => True

/-- Items that are all plain. -/
def PlainItems : List Json → Prop
  | [] => True
  | x :: xs => Plain x ∧ PlainItems xs

/-- Members with plain values. -/
def PlainMembers : List (String × Json) → Prop
  | [] => True
  | (_, v) :: ms => Plain v ∧ PlainMembers ms
end

/-! ## §1. Blanks. -/

/-- Digits are no blanks. -/
theorem isSpace_of_isDigit {c : Char} (h : isDigit c = true) : Reading.isSpace c = false := by
  rw [Bool.eq_false_iff]
  intro hspace
  unfold Reading.isSpace at hspace
  simp only [Bool.or_eq_true, beq_iff_eq, or_assoc] at hspace
  obtain rfl | rfl | rfl | rfl := hspace <;> exact absurd h (by decide)

/-- A new line is its character and two blanks for each level. -/
theorem toList_newline (depth : Nat) :
    (newline depth).toList = '\n' :: List.replicate (2 * depth) ' ' := by
  unfold newline
  rw [String.toList_append]
  exact congrArg ('\n' :: ·) String.toList_ofList

/-- All of a new line is passed over. -/
theorem isSpace_of_mem_newline {depth : Nat} {c : Char} (h : c ∈ (newline depth).toList) :
    Reading.isSpace c = true := by
  rw [toList_newline, List.mem_cons] at h
  rcases h with rfl | hindent
  · decide
  · rw [List.eq_of_mem_replicate hindent]
    decide

/-- **The blanks of a new line are passed over.** -/
theorem skipSpace_newline (depth : Nat) (cs : List Char) :
    Reading.skipSpace ((newline depth).toList ++ cs) = Reading.skipSpace cs :=
  List.dropWhile_append_of_pos fun _ hc => isSpace_of_mem_newline hc

/-- Nothing is passed over before a character that is no blank. -/
theorem skipSpace_of_head {c : Char} (hc : Reading.isSpace c = false) (cs : List Char) :
    Reading.skipSpace (c :: cs) = c :: cs :=
  List.dropWhile_cons_of_neg (by rw [hc]; decide)

/-! ## §2. The parts of a text. -/

/-- The items of a list as they stand after its bracket, or after an item. -/
def itemsText (depth : Nat) (first : Bool) : List Json → List Char
  | [] => []
  | x :: xs => (if first then [] else [',']) ++ (prettyItems depth (x :: xs)).toList

/-- The members of an object as they stand after its brace, or after a member. -/
def membersText (depth : Nat) (first : Bool) : List (String × Json) → List Char
  | [] => []
  | m :: ms => (if first then [] else [',']) ++ (prettyMembers depth (m :: ms)).toList

/-- The end of a list or an object: its bracket, on a line of its own after other parts. -/
def closing (depth : Nat) (empty : Bool) (bracket : Char) : List Char :=
  if empty then [bracket] else (newline depth).toList ++ [bracket]

/-- The first item stands on a new line, and the others follow it. -/
theorem toList_items (depth : Nat) (x : Json) (xs : List Json) :
    (prettyItems depth (x :: xs)).toList
      = (newline depth).toList ++ ((prettyAt depth x).toList ++ itemsText depth false xs) := by
  cases xs with
  | nil =>
    unfold prettyItems itemsText
    rw [String.toList_append, List.append_nil]
  | cons y ys =>
    rw [prettyItems]
    simp only [String.toList_append, List.append_assoc]
    rfl
    exact fun h => List.cons_ne_nil y ys h

/-- The first member stands on a new line: its key in quotes, a colon, a blank and its value. -/
theorem toList_members (depth : Nat) (k : String) (v : Json) (ms : List (String × Json)) :
    (prettyMembers depth ((k, v) :: ms)).toList
      = (newline depth).toList ++ (quoteChars k.toList ++ (':' :: ' ' ::
          ((prettyAt depth v).toList ++ membersText depth false ms))) := by
  cases ms with
  | nil =>
    unfold prettyMembers membersText quote
    simp only [String.toList_append, String.toList_ofList, List.append_assoc, List.append_nil]
    rfl
  | cons m ms =>
    rw [prettyMembers]
    unfold quote
    simp only [String.toList_append, String.toList_ofList, List.append_assoc]
    rfl
    exact fun h => List.cons_ne_nil m ms h

/-- An array is its items between brackets. -/
theorem toList_arr (depth : Nat) (xs : List Json) :
    (prettyAt depth (.arr xs)).toList
      = '[' :: (itemsText (depth + 1) true xs ++ closing depth xs.isEmpty ']') := by
  cases xs with
  | nil =>
    rw [prettyAt]
    rfl
  | cons x xs =>
    rw [prettyAt]
    simp only [String.toList_append, List.append_assoc]
    rfl

/-- An object is its members between braces. -/
theorem toList_obj (depth : Nat) (ms : List (String × Json)) :
    (prettyAt depth (.obj ms)).toList
      = '\x7b' :: (membersText (depth + 1) true ms ++ closing depth ms.isEmpty '\x7d') := by
  cases ms with
  | nil =>
    rw [prettyAt]
    rfl
  | cons m ms =>
    rw [prettyAt]
    simp only [String.toList_append, List.append_assoc]
    rfl

theorem toList_int (depth : Nat) (n : Int) :
    (prettyAt depth (.num (.int n))).toList = (toString n).toList := by
  rw [prettyAt, Number.text]

theorem toList_str (depth : Nat) (s : String) :
    (prettyAt depth (.str s)).toList = quoteChars s.toList := by
  rw [prettyAt]
  unfold quote
  rw [String.toList_ofList]

/-- The first character of a value is no blank and ends no list. -/
theorem head_pretty (depth : Nat) (v : Json) (hv : Plain v) :
    ∃ c cs, (prettyAt depth v).toList = c :: cs ∧ Reading.isSpace c = false ∧ c ≠ ']' := by
  cases v with
  | null => exact ⟨'n', ['u', 'l', 'l'], by rw [prettyAt]; rfl, by decide, by decide⟩
  | bool b =>
    cases b with
    | true => exact ⟨'t', ['r', 'u', 'e'], by rw [prettyAt]; rfl, by decide, by decide⟩
    | false => exact ⟨'f', ['a', 'l', 's', 'e'], by rw [prettyAt]; rfl, by decide, by decide⟩
  | num n =>
    cases n with
    | int n =>
      obtain ⟨c, cs, htext, hc⟩ := Reading.head_intText n
      refine ⟨c, cs, (toList_int depth n).trans htext, ?_, ?_⟩
      · rcases hc with rfl | hdigit
        · decide
        · exact isSpace_of_isDigit hdigit
      · rintro rfl
        exact absurd hc (by decide)
    | float x =>
      unfold Plain at hv
      exact hv.elim
  | str s => exact ⟨'"', _, toList_str depth s, by decide, by decide⟩
  | arr xs => exact ⟨'[', _, toList_arr depth xs, by decide, by decide⟩
  | obj ms => exact ⟨'\x7b', _, toList_obj depth ms, by decide, by decide⟩

/-- The text of a value does not begin with a blank. -/
theorem skipSpace_pretty (depth : Nat) {v : Json} (hv : Plain v) (cs : List Char) :
    Reading.skipSpace ((prettyAt depth v).toList ++ cs) = (prettyAt depth v).toList ++ cs := by
  obtain ⟨c, tail, htext, hc, -⟩ := head_pretty depth v hv
  rw [htext, List.cons_append]
  exact skipSpace_of_head hc _

/-- The closing bracket comes next, on its new line or after nothing at all. -/
theorem skipSpace_closing (depth : Nat) (empty : Bool) {bracket : Char}
    (hbracket : Reading.isSpace bracket = false) (rest : List Char) :
    Reading.skipSpace (closing depth empty bracket ++ rest) = bracket :: rest := by
  unfold closing
  cases empty with
  | true => exact skipSpace_of_head hbracket rest
  | false =>
    rw [if_neg (by decide), List.append_assoc, skipSpace_newline]
    exact skipSpace_of_head hbracket rest

/-- A number that is last ends before what closes the list. -/
theorem endsNumber_closing (depth : Nat) (empty : Bool) {bracket : Char}
    (hbracket : bracket = ']' ∨ bracket = '\x7d') (rest : List Char) :
    Reading.EndsNumber (closing depth empty bracket ++ rest) := by
  intro c hc
  unfold closing at hc
  cases empty with
  | true =>
    obtain rfl : bracket = c := Option.some.inj hc
    rcases hbracket with rfl | rfl <;> decide
  | false =>
    obtain rfl : '\n' = c := by
      rw [if_neg (by decide), toList_newline] at hc
      exact Option.some.inj hc
    decide

end Json

namespace Reading

/-! ## §3. The steps of the reader. -/

/-- A bracket closes a list. -/
theorem readItems_closed (fuel : Nat) (first : Bool) {cs rest : List Char}
    (hcs : skipSpace cs = ']' :: rest) :
    readItems (fuel + 1) first cs = ([], .closed, some rest) := by
  rw [readItems.eq_2, hcs]
  dsimp only
  rw [if_pos rfl]

/-- Where the next part of a list or an object begins: at once, or after a comma. -/
def NextPart (first : Bool) (cs part : List Char) : Prop :=
  if first then skipSpace cs = part
  else ∃ tail, skipSpace cs = ',' :: tail ∧ skipSpace tail = part

/-- An item of a list. -/
theorem readItems_item (fuel : Nat) {first : Bool} {cs rest more : List Char} {c : Char}
    {v : Reading} (hcs : NextPart first cs (c :: rest)) (hc : c ≠ ']')
    (hv : readValue fuel (c :: rest) = (v, some more)) :
    readItems (fuel + 1) first cs =
      (v :: (readItems fuel false more).1, (readItems fuel false more).2) := by
  rw [readItems.eq_2]
  cases first with
  | true =>
    have hpart : skipSpace cs = c :: rest := hcs
    rw [hpart]
    dsimp only
    rw [if_neg hc, if_pos rfl, hv]
  | false =>
    obtain ⟨tail, hcomma, htail⟩ :
      ∃ tail, skipSpace cs = ',' :: tail ∧ skipSpace tail = c :: rest := hcs
    rw [hcomma]
    dsimp only
    rw [if_neg (by decide), if_neg (by decide), if_pos rfl, htail]
    split
    · next heq => exact absurd (List.cons.inj heq).1 hc
    · next heq => cases heq
    · rw [hv]

/-- A brace closes an object. -/
theorem readMembers_closed (fuel : Nat) (first : Bool) {cs rest : List Char}
    (hcs : skipSpace cs = '\x7d' :: rest) :
    readMembers (fuel + 1) first cs = ([], .closed, some rest) := by
  rw [readMembers.eq_2, hcs]
  dsimp only
  rw [if_pos rfl]

/-- A member of an object. -/
theorem readMembers_member (fuel : Nat) {first : Bool} {k : String} {cs rest more : List Char}
    {v : Reading} (hcs : NextPart first cs (Json.quoteChars k.toList ++ ':' :: rest))
    (hv : readValue fuel rest = (v, some more)) :
    readMembers (fuel + 1) first cs =
      ((.ok k, v) :: (readMembers fuel false more).1, (readMembers fuel false more).2) := by
  have hkey : stringToken (k.toList.flatMap Json.escapeChar ++ '"' :: (':' :: rest))
      = .read (.ok k) (':' :: rest) := by
    rw [Json.stringToken_quote, String.ofList_toList]
  have hcolon : skipSpace (':' :: rest) = ':' :: rest := Json.skipSpace_of_head (by decide) rest
  have hquote : Json.quoteChars k.toList ++ ':' :: rest
      = '"' :: (k.toList.flatMap Json.escapeChar ++ '"' :: (':' :: rest)) := by
    unfold Json.quoteChars
    rw [List.cons_append, List.append_assoc]
    rfl
  rw [hquote] at hcs
  rw [readMembers.eq_2]
  cases first
  case' true =>
    have hpart : skipSpace cs = '"' :: _ := hcs
    rw [hpart]
    dsimp only
    rw [if_neg (by decide), if_pos rfl, if_pos rfl]
  case' false =>
    obtain ⟨tail, hcomma, htail⟩ : ∃ tail, skipSpace cs = ',' :: tail ∧ skipSpace tail = _ := hcs
    rw [hcomma]
    dsimp only
    rw [if_neg (by decide), if_neg (by decide), if_pos rfl, htail]
    split
    case' h_1 heq => cases heq
    case h_2 heq => cases heq
    case h_3 heq => cases heq
    case h_4 hother _ _ => exact absurd rfl (hother _)
  -- from the quote on the first member is read like the others
  all_goals
    rw [hkey]
    dsimp only
    rw [hcolon]
    split
    · next heq => cases heq
    · next heq =>
      cases heq
      rw [hv]
    · next hother => exact absurd rfl (hother rest)

/-- **The next item** is what is left of the items once blanks and a comma are passed over. -/
theorem nextPart_items (depth : Nat) (first : Bool) {x : Json} (hx : x.Plain) (xs : List Json)
    (cs : List Char) :
    NextPart first (Json.itemsText depth first (x :: xs) ++ cs)
      ((Json.prettyAt depth x).toList ++ (Json.itemsText depth false xs ++ cs)) := by
  have hpart : skipSpace ((Json.prettyItems depth (x :: xs)).toList ++ cs)
      = (Json.prettyAt depth x).toList ++ (Json.itemsText depth false xs ++ cs) := by
    rw [Json.toList_items, List.append_assoc, Json.skipSpace_newline, List.append_assoc,
      Json.skipSpace_pretty depth hx]
  cases first with
  | true => exact hpart
  | false => exact ⟨_, rfl, hpart⟩

/-- **The next member** is found in the same way. -/
theorem nextPart_members (depth : Nat) (first : Bool) (k : String) (v : Json)
    (ms : List (String × Json)) (cs : List Char) :
    NextPart first (Json.membersText depth first ((k, v) :: ms) ++ cs)
      (Json.quoteChars k.toList ++ ':' :: ' ' ::
        ((Json.prettyAt depth v).toList ++ (Json.membersText depth false ms ++ cs))) := by
  have hpart : skipSpace ((Json.prettyMembers depth ((k, v) :: ms)).toList ++ cs)
      = Json.quoteChars k.toList ++ ':' :: ' ' ::
        ((Json.prettyAt depth v).toList ++ (Json.membersText depth false ms ++ cs)) := by
    rw [Json.toList_members, List.append_assoc, Json.skipSpace_newline]
    simp only [List.append_assoc, List.cons_append]
    exact Json.skipSpace_of_head (by decide) _
  cases first with
  | true => exact hpart
  | false => exact ⟨_, rfl, hpart⟩

/-! ## §4. Values. -/

/-- A blank before a value is passed over. -/
theorem readValue_blank (fuel : Nat) (cs : List Char) :
    readValue fuel (' ' :: cs) = readValue fuel cs := by
  have hskip : skipSpace (' ' :: cs) = skipSpace cs := rfl
  cases fuel with
  | zero => rfl
  | succ fuel => rw [readValue.eq_2, readValue.eq_2, hskip]

/-- An integer is a value. -/
theorem readValue_int (fuel : Nat) {n : Int} (hn : Fits n) {rest : List Char}
    (hrest : EndsNumber rest) :
    readValue (fuel + 1) ((toString n).toList ++ rest) = (.num (.ok (.int n)), some rest) := by
  have htoken := numberToken_int hn hrest
  obtain ⟨c, cs, htext, hc⟩ := head_intText n
  have hspace : isSpace c = false := by
    rcases hc with rfl | hdigit
    · decide
    · exact Json.isSpace_of_isDigit hdigit
  -- it begins with a sign or a digit, so with nothing that begins another value
  have hother : ∀ d, d ≠ '-' → isDigit d = false → c ≠ d := by
    rintro d hsign hdigit rfl
    rcases hc with rfl | hdigit'
    · exact hsign rfl
    · rw [hdigit] at hdigit'
      cases hdigit'
  have hstart : (decide (c = '-') || isDigit c) = true := by
    rw [Bool.or_eq_true, decide_eq_true_eq]
    exact hc
  rw [htext, List.cons_append] at htoken ⊢
  rw [readValue.eq_2, Json.skipSpace_of_head hspace]
  dsimp only
  rw [if_neg (hother 'n' (by decide) (by decide)), if_neg (hother 't' (by decide) (by decide)),
    if_neg (hother 'f' (by decide) (by decide)), if_neg (hother '"' (by decide) (by decide)),
    if_pos hstart, htoken]

/-- A list is a value. -/
theorem readValue_list (fuel : Nat) (cs : List Char) :
    readValue (fuel + 1) ('[' :: cs) =
      (.arr (readItems fuel true cs).1 (readItems fuel true cs).2.1,
        (readItems fuel true cs).2.2) := by
  have hspace : skipSpace ('[' :: cs) = '[' :: cs := rfl
  rw [readValue.eq_2, hspace]
  dsimp only
  rw [if_neg (by decide), if_neg (by decide), if_neg (by decide), if_neg (by decide),
    if_neg (by decide), if_pos rfl]

/-- An object is a value. -/
theorem readValue_object (fuel : Nat) (cs : List Char) :
    readValue (fuel + 1) ('\x7b' :: cs) =
      (.obj (readMembers fuel true cs).1 (readMembers fuel true cs).2.1,
        (readMembers fuel true cs).2.2) := by
  have hspace : skipSpace ('\x7b' :: cs) = '\x7b' :: cs := rfl
  rw [readValue.eq_2, hspace]
  dsimp only
  rw [if_neg (by decide), if_neg (by decide), if_neg (by decide), if_neg (by decide),
    if_neg (by decide), if_neg (by decide), if_pos rfl]

/-- A number that is followed by further items ends where they begin. -/
theorem endsNumber_items (depth : Nat) (xs : List Json) {cs : List Char} (hcs : EndsNumber cs) :
    EndsNumber (Json.itemsText depth false xs ++ cs) := by
  cases xs with
  | nil => exact hcs
  | cons x xs =>
    intro c hc
    obtain rfl : ',' = c := Option.some.inj hc
    decide

/-- A number that is followed by further members ends where they begin. -/
theorem endsNumber_members (depth : Nat) (ms : List (String × Json)) {cs : List Char}
    (hcs : EndsNumber cs) : EndsNumber (Json.membersText depth false ms ++ cs) := by
  cases ms with
  | nil => exact hcs
  | cons m ms =>
    intro c hc
    obtain rfl : ',' = c := Option.some.inj hc
    decide

/-- What is left after an item is shorter, so as many steps as there are characters suffice. -/
theorem length_items (depth : Nat) (first : Bool) (x : Json) (xs : List Json) :
    (Json.prettyAt depth x).toList.length + (Json.itemsText depth false xs).length + 1
      ≤ (Json.itemsText depth first (x :: xs)).length := by
  have hline : 0 < (Json.newline depth).toList.length := by
    rw [Json.toList_newline]
    exact Nat.succ_pos _
  unfold Json.itemsText
  rw [List.length_append, Json.toList_items, List.length_append, List.length_append]
  change _ + (Json.itemsText depth false xs).length + 1 ≤ _
  omega

/-- What is left after a member is shorter, too. -/
theorem length_members (depth : Nat) (first : Bool) (k : String) (v : Json)
    (ms : List (String × Json)) :
    (Json.prettyAt depth v).toList.length + (Json.membersText depth false ms).length + 1
      ≤ (Json.membersText depth first ((k, v) :: ms)).length := by
  rw [Json.membersText, List.length_append, Json.toList_members]
  simp only [List.length_append, List.length_cons]
  omega

theorem isSpace_bracket : isSpace ']' = false := by decide

theorem isSpace_brace : isSpace '\x7d' = false := by decide

mutual

/-- **The text of a value is read as the value,** whatever follows it that does not go on with a
number. -/
theorem readValue_pretty (depth : Nat) (v : Json) (hv : v.Plain) (fuel : Nat)
    (hfuel : 2 * (Json.prettyAt depth v).toList.length ≤ fuel) {rest : List Char}
    (hrest : EndsNumber rest) :
    readValue fuel ((Json.prettyAt depth v).toList ++ rest) = (ofJson v, some rest) := by
  -- a text is not empty, so there is fuel for its first character
  have hsome : fuel ≠ 0 := by
    obtain ⟨c, cs, htext, -⟩ := Json.head_pretty depth v hv
    rw [htext, List.length_cons] at hfuel
    omega
  obtain ⟨fuel, rfl⟩ := Nat.exists_eq_succ_of_ne_zero hsome
  -- on the document: items and members are read with the fuel that is left
  cases v with
  | null =>
    rw [Json.prettyAt, readValue.eq_2]
    rfl
  | bool b =>
    cases b <;> rw [Json.prettyAt, readValue.eq_2] <;> rfl
  | num n =>
    cases n with
    | int n =>
      rw [Json.toList_int, readValue_int fuel hv hrest]
      rfl
    | float x =>
      unfold Json.Plain at hv
      exact hv.elim
  | str s =>
    rw [Json.toList_str, Json.readValue_quote, String.ofList_toList]
    rfl
  | arr xs =>
    have hend := Json.skipSpace_closing depth xs.isEmpty isSpace_bracket rest
    have hclose := Json.endsNumber_closing depth xs.isEmpty (.inl rfl) rest
    rw [Json.toList_arr, List.length_cons, List.length_append] at hfuel
    rw [Json.toList_arr, List.cons_append, readValue_list, List.append_assoc,
      readItems_pretty (depth + 1) xs hv true fuel (by omega) hclose hend]
    rfl
  | obj ms =>
    have hend := Json.skipSpace_closing depth ms.isEmpty isSpace_brace rest
    have hclose := Json.endsNumber_closing depth ms.isEmpty (.inr rfl) rest
    rw [Json.toList_obj, List.length_cons, List.length_append] at hfuel
    rw [Json.toList_obj, List.cons_append, readValue_object, List.append_assoc,
      readMembers_pretty (depth + 1) ms hv true fuel (by omega) hclose hend]
    rfl

/-- The items of a list are read one by one. -/
theorem readItems_pretty (depth : Nat) (xs : List Json) (hxs : Json.PlainItems xs) (first : Bool)
    (fuel : Nat) (hfuel : 2 * (Json.itemsText depth first xs).length + 1 ≤ fuel)
    {cs rest : List Char} (hcs : EndsNumber cs) (hend : skipSpace cs = ']' :: rest) :
    readItems fuel first (Json.itemsText depth first xs ++ cs)
      = (ofItems xs, .closed, some rest) := by
  obtain ⟨fuel, rfl⟩ : ∃ m, fuel = m + 1 := Nat.exists_eq_succ_of_ne_zero (by omega)
  match xs with
  | [] => exact readItems_closed fuel first hend
  | x :: xs =>
    obtain ⟨hx, hxs⟩ := hxs
    have hlength := length_items depth first x xs
    have hpart := nextPart_items depth first hx xs cs
    have hv := readValue_pretty depth x hx fuel (by omega) (endsNumber_items depth xs hcs)
    have hmore := readItems_pretty depth xs hxs false fuel (by omega) hcs hend
    obtain ⟨c, tail, htext, -, hc⟩ := Json.head_pretty depth x hx
    rw [htext, List.cons_append] at hpart hv
    rw [readItems_item fuel hpart hc hv, hmore]
    rfl

/-- The members of an object are read one by one. -/
theorem readMembers_pretty (depth : Nat) (ms : List (String × Json)) (hms : Json.PlainMembers ms)
    (first : Bool) (fuel : Nat)
    (hfuel : 2 * (Json.membersText depth first ms).length + 1 ≤ fuel)
    {cs rest : List Char} (hcs : EndsNumber cs) (hend : skipSpace cs = '\x7d' :: rest) :
    readMembers fuel first (Json.membersText depth first ms ++ cs)
      = (ofMembers ms, .closed, some rest) := by
  obtain ⟨fuel, rfl⟩ : ∃ m, fuel = m + 1 := Nat.exists_eq_succ_of_ne_zero (by omega)
  match ms with
  | [] => exact readMembers_closed fuel first hend
  | (k, v) :: ms =>
    obtain ⟨hv, hms⟩ := hms
    have hlength := length_members depth first k v ms
    have hpart := nextPart_members depth first k v ms cs
    have hvalue := readValue_pretty depth v hv fuel (by omega) (endsNumber_members depth ms hcs)
    have hmore := readMembers_pretty depth ms hms false fuel (by omega) hcs hend
    rw [← readValue_blank] at hvalue
    rw [readMembers_member fuel hpart hvalue, hmore]
    rfl

end

/-- **The text of a document is read as the document,** and nothing is left of it. -/
theorem ofText_pretty {v : Json} (hv : v.Plain) :
    ofText (v.pretty ++ "\n") = ⟨ofJson v, false⟩ := by
  have hrest : EndsNumber ['\n'] := by
    intro c hc
    obtain rfl : '\n' = c := Option.some.inj hc
    decide
  have htext : (v.pretty ++ "\n").toList = (Json.prettyAt 0 v).toList ++ ['\n'] := by
    rw [String.toList_append]
    rfl
  unfold ofText
  dsimp only
  rw [htext, readValue_pretty 0 v hv _ (by rw [List.length_append]; omega) hrest]
  rfl

end Reading

end SuiteRunner

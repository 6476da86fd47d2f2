import SuiteRunner.Proofs.Outside.Results
import SuiteRunner.Text.Base64
import SuiteRunner.Text.Blank
import SuiteRunner.Text.Utf8

/-!
  SuiteRunner.Proofs.Text.Bytes
  ────────────────────────────────
  **BYTES AS TEXT, AND TEXT AS BYTES.**

  Three bytes and four characters hold the same twenty-four bits.  So writing and reading invert
  each other, and reading accepts nothing else, because the filling and the unused bits must be as
  they are written:

    • `Base64.valueOf?_eq_some_iff` — the characters are those of the numbers below 64,
    • `Base64.decodeChars?_eq_some_iff` — **reading accepts exactly what writing produces,**
    • `Base64.length_encode` — four characters for each three bytes that are begun.

  A character is written as one to four bytes, and the bounds on the byte after the first leave one
  way to write each:

    • `Utf8.readChar_three_iff`, `Utf8.readChar_four_iff` — what those bounds say of the character,
    • `Utf8.readChar_encoded` — a written character is read, whatever follows,
    • `Utf8.encoded_of_readChar` — what is read as a character was written for it,
    • `Utf8.decode_eq_ok_iff` — **strict reading accepts exactly what writing produces.**
-/

namespace SuiteRunner

namespace Base64

/-! ## §1. Characters. -/

/-- Each of the 64 characters stands for its number. -/
theorem valueOf?_charOf {n : Nat} (h : n < 64) : valueOf? (charOf n) = some n := by
  have hall : ∀ n < 64, valueOf? (charOf n) = some n := by decide
  exact hall n h

/-- The characters are among the first 128. -/
theorem toNat_lt_of_valueOf? {c : Char} {n : Nat} (h : valueOf? c = some n) : c.toNat < 128 := by
  have hbound : ∀ last : Char, last.toNat < 128 → c ≤ last → c.toNat < 128 :=
    fun last hlast hle => Nat.lt_of_le_of_lt (show c.toNat ≤ last.toNat from hle) hlast
  unfold valueOf? at h
  split at h
  · next hupper => exact hbound 'Z' (by decide) hupper.2
  split at h
  · next hlower => exact hbound 'z' (by decide) hlower.2
  split at h
  · next hdigit => exact hbound '9' (by decide) hdigit.2
  split at h
  · next hplus => exact hplus ▸ (by decide)
  split at h
  · next hslash => exact hslash ▸ (by decide)
  · cases h

/-- **The characters are those of the numbers below 64.** -/
theorem valueOf?_eq_some_iff {c : Char} {n : Nat} :
    valueOf? c = some n ↔ n < 64 ∧ c = charOf n := by
  constructor
  · -- there are few enough of them to go through
    intro h
    have hall : ∀ m < 128, (valueOf? (Char.ofNat m)).all
        (fun n => decide (n < 64 ∧ Char.ofNat m = charOf n)) = true := by decide
    have hc := hall c.toNat (toNat_lt_of_valueOf? h)
    rw [Char.ofNat_toNat, h] at hc
    exact of_decide_eq_true hc
  · rintro ⟨hn, rfl⟩
    exact valueOf?_charOf hn

/-- No number has the character that fills up. -/
theorem charOf_ne_filling {n : Nat} (h : n < 64) : charOf n ≠ '=' := by
  intro hfill
  have hvalue := valueOf?_charOf h
  rw [hfill] at hvalue
  cases hvalue

/-! ## §2. Reading what was written. -/

theorem toNat_byte (n : Nat) : (byte n).toNat = n % 256 := UInt8.toNat_ofNat'

/-- A number is a byte if the rest by 256 is. -/
theorem byte_eq {n : Nat} {b : UInt8} (h : n % 256 = b.toNat) : byte n = b :=
  UInt8.toNat_inj.mp ((toNat_byte n).trans h)

/-- Four characters without filling are read as three bytes. -/
theorem decodeChars?_four {a b c d : Char} (hd : d ≠ '=') (rest : List Char) :
    decodeChars? (a :: b :: c :: d :: rest) = (do
      let n := 262144 * (← valueOf? a) + 4096 * (← valueOf? b) + 64 * (← valueOf? c)
        + (← valueOf? d)
      let bytes ← decodeChars? rest
      return byte (n / 65536) :: byte (n / 256) :: byte n :: bytes) :=
  decodeChars?.eq_4 a b c d rest (fun _ hfill => absurd hfill hd) (fun hfill => absurd hfill hd)

/-- Three characters with one that fills up are read as two bytes. -/
theorem decodeChars?_three {a b c : Char} (hc : c ≠ '=') :
    decodeChars? [a, b, c, '='] = (do
      let n := 4096 * (← valueOf? a) + 64 * (← valueOf? b) + (← valueOf? c)
      if n % 4 = 0 then some [byte (n / 1024), byte (n / 4)] else none) :=
  decodeChars?.eq_3 a b c hc

/-- **What was written is read,** by threes of bytes. -/
theorem decodeChars?_encodeBytes (bytes : List UInt8) :
    decodeChars? (encodeBytes bytes) = some bytes := by
  -- `n` is one number in two bases: its digits to 64 are written, those to 256 read
  fun_induction encodeBytes bytes with
  | case1 a b c rest n ih =>
    have ha := a.toNat_lt
    have hb := b.toNat_lt
    have hc := c.toNat_lt
    have hn : n = a.toNat * 65536 + b.toNat * 256 + c.toNat := rfl
    rw [decodeChars?_four (charOf_ne_filling (by omega)), valueOf?_charOf (by omega),
      valueOf?_charOf (by omega), valueOf?_charOf (by omega), valueOf?_charOf (by omega), ih]
    show some (byte _ :: byte _ :: byte _ :: rest) = some (a :: b :: c :: rest)
    rw [byte_eq (b := a) (by omega), byte_eq (b := b) (by omega), byte_eq (b := c) (by omega)]
  | case2 a b n =>
    have ha := a.toNat_lt
    have hb := b.toNat_lt
    have hn : n = a.toNat * 1024 + b.toNat * 4 := rfl
    rw [decodeChars?_three (charOf_ne_filling (by omega)), valueOf?_charOf (by omega),
      valueOf?_charOf (by omega), valueOf?_charOf (by omega)]
    show (if _ then some [byte _, byte _] else none) = some [a, b]
    rw [if_pos (by omega), byte_eq (b := a) (by omega), byte_eq (b := b) (by omega)]
  | case3 a n =>
    have ha := a.toNat_lt
    have hn : n = a.toNat * 16 := rfl
    rw [decodeChars?.eq_2, valueOf?_charOf (by omega), valueOf?_charOf (by omega)]
    show (if _ then some [byte _] else none) = some [a]
    rw [if_pos (by omega), byte_eq (b := a) (by omega)]
  | case4 => rfl

/-- The character of which six bits were read. -/
theorem eq_charOf {c : Char} {n m : Nat} (h : valueOf? c = some n) (hm : n = m) : c = charOf m :=
  hm ▸ (valueOf?_eq_some_iff.mp h).2

/-- What is read was written. -/
theorem eq_encodeBytes_of_decodeChars? {cs : List Char} {bytes : List UInt8}
    (h : decodeChars? cs = some bytes) : cs = encodeBytes bytes := by
  -- where characters fill up, the bits that are not read are zero, so they are written again
  fun_induction decodeChars? cs generalizing bytes with
  | case1 =>
    cases h
    rfl
  | case2 a b =>
    obtain ⟨x, hx, h⟩ := Option.bind_eq_some_iff.mp h
    obtain ⟨y, hy, h⟩ := Option.bind_eq_some_iff.mp h
    obtain ⟨hunused, hbytes⟩ := Option.ite_none_right_eq_some.mp h
    cases hbytes
    have hx' := (valueOf?_eq_some_iff.mp hx).1
    have hy' := (valueOf?_eq_some_iff.mp hy).1
    have hbyte := toNat_byte ((64 * x + y) / 16)
    show [a, b, '=', '='] = [charOf _, charOf _, '=', '=']
    rw [← eq_charOf hx (by omega), ← eq_charOf hy (by omega)]
  | case3 a b c hc =>
    obtain ⟨x, hx, h⟩ := Option.bind_eq_some_iff.mp h
    obtain ⟨y, hy, h⟩ := Option.bind_eq_some_iff.mp h
    obtain ⟨z, hz, h⟩ := Option.bind_eq_some_iff.mp h
    obtain ⟨hunused, hbytes⟩ := Option.ite_none_right_eq_some.mp h
    cases hbytes
    have hx' := (valueOf?_eq_some_iff.mp hx).1
    have hy' := (valueOf?_eq_some_iff.mp hy).1
    have hz' := (valueOf?_eq_some_iff.mp hz).1
    have hfirst := toNat_byte ((4096 * x + 64 * y + z) / 1024)
    have hsecond := toNat_byte ((4096 * x + 64 * y + z) / 4)
    show [a, b, c, '='] = [charOf _, charOf _, charOf _, '=']
    rw [← eq_charOf hx (by omega), ← eq_charOf hy (by omega), ← eq_charOf hz (by omega)]
  | case4 a b c d rest hc hd ih =>
    obtain ⟨x, hx, h⟩ := Option.bind_eq_some_iff.mp h
    obtain ⟨y, hy, h⟩ := Option.bind_eq_some_iff.mp h
    obtain ⟨z, hz, h⟩ := Option.bind_eq_some_iff.mp h
    obtain ⟨w, hw, h⟩ := Option.bind_eq_some_iff.mp h
    obtain ⟨tail, htail, h⟩ := Option.bind_eq_some_iff.mp h
    cases h
    have hx' := (valueOf?_eq_some_iff.mp hx).1
    have hy' := (valueOf?_eq_some_iff.mp hy).1
    have hz' := (valueOf?_eq_some_iff.mp hz).1
    have hw' := (valueOf?_eq_some_iff.mp hw).1
    have hfirst := toNat_byte ((262144 * x + 4096 * y + 64 * z + w) / 65536)
    have hsecond := toNat_byte ((262144 * x + 4096 * y + 64 * z + w) / 256)
    have hthird := toNat_byte (262144 * x + 4096 * y + 64 * z + w)
    show a :: b :: c :: d :: rest
      = charOf _ :: charOf _ :: charOf _ :: charOf _ :: encodeBytes tail
    rw [← eq_charOf hx (by omega), ← eq_charOf hy (by omega), ← eq_charOf hz (by omega),
      ← eq_charOf hw (by omega), ih htail]
  | case5 cs _ _ _ _ => cases h

/-- **Reading accepts exactly what writing produces.** -/
theorem decodeChars?_eq_some_iff {cs : List Char} {bytes : List UInt8} :
    decodeChars? cs = some bytes ↔ cs = encodeBytes bytes := by
  constructor
  · exact eq_encodeBytes_of_decodeChars?
  · rintro rfl
    exact decodeChars?_encodeBytes bytes

/-- **A text is read as bytes exactly if it was written for them.** -/
theorem decode?_eq_some_iff {text : String} {bytes : List UInt8} :
    decode? text = some bytes ↔ text = encode bytes := by
  unfold decode? encode
  rw [decodeChars?_eq_some_iff]
  constructor
  · intro h
    rw [← h, String.ofList_toList]
  · rintro rfl
    exact String.toList_ofList

/-! ## §3. The text. -/

/-- Four characters stand for each three bytes that are begun. -/
theorem length_encodeBytes (bytes : List UInt8) :
    (encodeBytes bytes).length = 4 * ((bytes.length + 2) / 3) := by
  fun_induction encodeBytes bytes with
  | case1 a b c rest n ih =>
    simp only [List.length_cons, ih]
    omega
  | case2 a b n => simp
  | case3 a n => simp
  | case4 => rfl

/-- **Four characters for each three bytes that are begun.** -/
theorem length_encode (bytes : List UInt8) :
    (encode bytes).length = 4 * ((bytes.length + 2) / 3) := by
  unfold encode
  rw [String.length_ofList, length_encodeBytes]

/-- None of the 64 characters is blank. -/
theorem isBlank_charOf {n : Nat} (h : n < 64) : Text.isBlank (charOf n) = false := by
  have hall : ∀ n < 64, Text.isBlank (charOf n) = false := by decide
  exact hall n h

/-- There are no blanks in it. -/
theorem isBlank_of_mem_encodeBytes {bytes : List UInt8} {x : Char} (hx : x ∈ encodeBytes bytes) :
    Text.isBlank x = false := by
  have hfilling : Text.isBlank '=' = false := by decide
  -- each group of bytes gives numbers below 64, and their characters are not blank
  fun_induction encodeBytes bytes with
  | case1 a b c rest n ih =>
    have ha := a.toNat_lt
    have hn : n = a.toNat * 65536 + b.toNat * 256 + c.toNat := rfl
    have hb := b.toNat_lt
    have hc := c.toNat_lt
    simp only [List.mem_cons] at hx
    obtain rfl | rfl | rfl | rfl | hx := hx
    · exact isBlank_charOf (by omega)
    · exact isBlank_charOf (by omega)
    · exact isBlank_charOf (by omega)
    · exact isBlank_charOf (by omega)
    · exact ih hx
  | case2 a b n =>
    have ha := a.toNat_lt
    have hb := b.toNat_lt
    have hn : n = a.toNat * 1024 + b.toNat * 4 := rfl
    simp only [List.mem_cons, List.not_mem_nil, or_false] at hx
    obtain rfl | rfl | rfl | rfl := hx
    · exact isBlank_charOf (by omega)
    · exact isBlank_charOf (by omega)
    · exact isBlank_charOf (by omega)
    · exact hfilling
  | case3 a n =>
    have ha := a.toNat_lt
    have hn : n = a.toNat * 16 := rfl
    simp only [List.mem_cons, List.not_mem_nil, or_false] at hx
    obtain rfl | rfl | rfl | rfl := hx
    · exact isBlank_charOf (by omega)
    · exact isBlank_charOf (by omega)
    · exact hfilling
    · exact hfilling
  | case4 => cases hx

end Base64

namespace Utf8

/-! ## §4. First bytes, and those that follow. -/

/-- A byte below 128 is a character. -/
theorem lead?_one {b : Nat} (h : b < 0x80) : lead? b = some ⟨0, 0x80, 0xbf, b⟩ := if_pos h

theorem lead?_two {b : Nat} (h : 0xc2 ≤ b) (h' : b < 0xe0) :
    lead? b = some ⟨1, 0x80, 0xbf, b - 0xc0⟩ := by
  unfold lead?
  rw [if_neg (by omega), if_neg (by omega), if_pos h']

/-- With three bytes the character must need them, and be no surrogate; the first two of them give
all but its last six bits. -/
theorem lead?_three {b : Nat} (h : 0xe0 ≤ b) (h' : b < 0xf0) :
    ∃ low high, lead? b = some ⟨2, low, high, b - 0xe0⟩ ∧
      ∀ x, low ≤ x ∧ x ≤ high ↔ 0x80 ≤ x ∧ x ≤ 0xbf ∧ 0x800 / 64 ≤ 64 * (b - 0xe0) + (x - 0x80) ∧
        ¬ (0xd800 / 64 ≤ 64 * (b - 0xe0) + (x - 0x80) ∧
          64 * (b - 0xe0) + (x - 0x80) ≤ 0xdfff / 64) := by
  unfold lead?
  rw [if_neg (by omega), if_neg (by omega), if_neg (by omega)]
  by_cases h0 : b = 0xe0
  · subst h0
    exact ⟨_, _, if_pos rfl, fun x => by omega⟩
  by_cases hd : b = 0xed
  · subst hd
    exact ⟨_, _, rfl, fun x => by omega⟩
  rw [if_neg h0, if_neg hd, if_pos h']
  exact ⟨_, _, rfl, fun x => by omega⟩

/-- With four bytes the character must need them, and be one; the first two of them give all but
its last twelve bits. -/
theorem lead?_four {b : Nat} (h : 0xf0 ≤ b) (h' : b ≤ 0xf4) :
    ∃ low high, lead? b = some ⟨3, low, high, b - 0xf0⟩ ∧
      ∀ x, low ≤ x ∧ x ≤ high ↔ 0x80 ≤ x ∧ x ≤ 0xbf ∧
        0x10000 / 4096 ≤ 64 * (b - 0xf0) + (x - 0x80) ∧
        64 * (b - 0xf0) + (x - 0x80) < 0x110000 / 4096 := by
  unfold lead?
  rw [if_neg (by omega), if_neg (by omega), if_neg (by omega), if_neg (by omega),
    if_neg (by omega), if_neg (by omega)]
  by_cases h0 : b = 0xf0
  · subst h0
    exact ⟨_, _, if_pos rfl, fun x => by omega⟩
  by_cases h4 : b = 0xf4
  · subst h4
    exact ⟨_, _, rfl, fun x => by omega⟩
  rw [if_neg h0, if_pos (by omega)]
  exact ⟨_, _, rfl, fun x => by omega⟩

/-- A byte that may only follow others begins nothing, and neither do those that would write a
character too long or beyond the last. -/
theorem lead?_none {b : Nat} (h : 0x80 ≤ b ∧ b < 0xc2 ∨ 0xf4 < b) : lead? b = none := by
  unfold lead?
  obtain ⟨hlow, hhigh⟩ | hbig := h
  · rw [if_neg (by omega), if_pos hhigh]
  · rw [if_neg (by omega), if_neg (by omega), if_neg (by omega), if_neg (by omega),
      if_neg (by omega), if_neg (by omega), if_neg (by omega), if_neg (by omega),
      if_neg (by omega)]

theorem follow_zero_iff {low high code used : Nat} {bytes : List UInt8} {code' used' : Nat} :
    follow 0 low high code used bytes = .char code' used' ↔ code = code' ∧ used = used' := by
  rw [follow, Follow.char.injEq]

/-- One more byte is read if it is within its bounds. -/
theorem follow_succ_iff {n low high code used : Nat} {bytes : List UInt8} {code' used' : Nat} :
    follow (n + 1) low high code used bytes = .char code' used' ↔
      ∃ b rest, bytes = b :: rest ∧ (low ≤ b.toNat ∧ b.toNat ≤ high) ∧
        follow n 0x80 0xbf (64 * code + (b.toNat - 0x80)) (used + 1) rest = .char code' used' := by
  cases bytes with
  | nil => simp [follow]
  | cons b rest =>
    rw [follow]
    by_cases hb : low ≤ b.toNat ∧ b.toNat ≤ high
    · rw [if_pos hb]
      constructor
      · intro h
        exact ⟨b, rest, rfl, hb, h⟩
      · rintro ⟨b', rest', heq, -, h⟩
        cases heq
        exact h
    · rw [if_neg hb]
      refine iff_of_false Follow.noConfusion ?_
      rintro ⟨b', rest', heq, hb', -⟩
      cases heq
      exact hb hb'

/-- The first byte says how many follow, and which bounds the next one has. -/
theorem readChar_of_lead? {b : UInt8} {n low high bits : Nat}
    (h : lead? b.toNat = some ⟨n, low, high, bits⟩) (rest : List UInt8) :
    readChar b rest = follow n low high bits 1 rest := by
  unfold readChar
  rw [h]

/-- The first 128 bytes are characters. -/
theorem readChar_one_iff {b : UInt8} (h : b.toNat < 0x80) {bytes : List UInt8} {code used : Nat} :
    readChar b bytes = .char code used ↔ b.toNat = code ∧ 1 = used := by
  rw [readChar_of_lead? (lead?_one h), follow_zero_iff]

/-- What is read from two bytes: six bits follow the bits of the first. -/
theorem readChar_two_iff {b : UInt8} (h : 0xc2 ≤ b.toNat) (h' : b.toNat < 0xe0)
    {bytes : List UInt8} {code used : Nat} :
    readChar b bytes = .char code used ↔ ∃ b1 rest, bytes = b1 :: rest ∧
      (0x80 ≤ b1.toNat ∧ b1.toNat ≤ 0xbf) ∧
      64 * (b.toNat - 0xc0) + (b1.toNat - 0x80) = code ∧ 2 = used := by
  rw [readChar_of_lead? (lead?_two h h'), follow_succ_iff]
  simp only [follow_zero_iff]

/-- **Three bytes are read if the character needs them,** and is no surrogate. -/
theorem readChar_three_iff {b : UInt8} (h : 0xe0 ≤ b.toNat) (h' : b.toNat < 0xf0)
    {bytes : List UInt8} {code used : Nat} :
    readChar b bytes = .char code used ↔ ∃ b1 b2 rest, bytes = b1 :: b2 :: rest ∧
      (0x80 ≤ b1.toNat ∧ b1.toNat ≤ 0xbf) ∧ (0x80 ≤ b2.toNat ∧ b2.toNat ≤ 0xbf) ∧
      64 * (64 * (b.toNat - 0xe0) + (b1.toNat - 0x80)) + (b2.toNat - 0x80) = code ∧ 3 = used ∧
      0x800 ≤ code ∧ ¬ (0xd800 ≤ code ∧ code ≤ 0xdfff) := by
  obtain ⟨low, high, hlead, hbounds⟩ := lead?_three h h'
  rw [readChar_of_lead? hlead]
  -- the ranges begin and end where the last six bits do, so the others decide
  constructor
  · intro hread
    obtain ⟨b1, rest1, rfl, hb1, hread⟩ := follow_succ_iff.mp hread
    obtain ⟨b2, rest, rfl, hb2, hread⟩ := follow_succ_iff.mp hread
    obtain ⟨rfl, rfl⟩ := follow_zero_iff.mp hread
    rw [hbounds] at hb1
    exact ⟨b1, b2, rest, rfl, by omega, hb2, rfl, rfl, by omega, by omega⟩
  · rintro ⟨b1, b2, rest, rfl, hb1, hb2, rfl, rfl, hlong, hvalid⟩
    exact follow_succ_iff.mpr ⟨b1, _, rfl, (hbounds _).mpr (by omega), follow_succ_iff.mpr
      ⟨b2, _, rfl, hb2, follow_zero_iff.mpr ⟨rfl, rfl⟩⟩⟩

/-- **Four bytes are read if the character needs them,** and is one. -/
theorem readChar_four_iff {b : UInt8} (h : 0xf0 ≤ b.toNat) (h' : b.toNat ≤ 0xf4)
    {bytes : List UInt8} {code used : Nat} :
    readChar b bytes = .char code used ↔ ∃ b1 b2 b3 rest, bytes = b1 :: b2 :: b3 :: rest ∧
      (0x80 ≤ b1.toNat ∧ b1.toNat ≤ 0xbf) ∧ (0x80 ≤ b2.toNat ∧ b2.toNat ≤ 0xbf) ∧
      (0x80 ≤ b3.toNat ∧ b3.toNat ≤ 0xbf) ∧
      64 * (64 * (64 * (b.toNat - 0xf0) + (b1.toNat - 0x80)) + (b2.toNat - 0x80))
        + (b3.toNat - 0x80) = code ∧ 4 = used ∧ 0x10000 ≤ code ∧ code < 0x110000 := by
  obtain ⟨low, high, hlead, hbounds⟩ := lead?_four h h'
  rw [readChar_of_lead? hlead]
  constructor
  · intro hread
    obtain ⟨b1, rest1, rfl, hb1, hread⟩ := follow_succ_iff.mp hread
    obtain ⟨b2, rest2, rfl, hb2, hread⟩ := follow_succ_iff.mp hread
    obtain ⟨b3, rest, rfl, hb3, hread⟩ := follow_succ_iff.mp hread
    obtain ⟨rfl, rfl⟩ := follow_zero_iff.mp hread
    rw [hbounds] at hb1
    exact ⟨b1, b2, b3, rest, rfl, by omega, hb2, hb3, rfl, rfl, by omega, by omega⟩
  · rintro ⟨b1, b2, b3, rest, rfl, hb1, hb2, hb3, rfl, rfl, hlong, hvalid⟩
    exact follow_succ_iff.mpr ⟨b1, _, rfl, (hbounds _).mpr (by omega), follow_succ_iff.mpr
      ⟨b2, _, rfl, hb2, follow_succ_iff.mpr ⟨b3, _, rfl, hb3, follow_zero_iff.mpr ⟨rfl, rfl⟩⟩⟩⟩

/-- No character begins with any other byte. -/
theorem readChar_ne_char {b : UInt8} (h : 0x80 ≤ b.toNat ∧ b.toNat < 0xc2 ∨ 0xf4 < b.toNat)
    {bytes : List UInt8} {code used : Nat} : readChar b bytes ≠ .char code used := by
  unfold readChar
  rw [lead?_none h]
  exact Follow.noConfusion

/-! ## §5. One character. -/

theorem toNat_ofNat_byte {n : Nat} (h : n < 256) : (UInt8.ofNat n).toNat = n := by
  rw [UInt8.toNat_ofNat', Nat.mod_eq_of_lt h]

/-- A character below 128 is written as itself. -/
theorem encodeChar_one {c : Char} (h : c.toNat < 0x80) :
    String.utf8EncodeChar c = [UInt8.ofNat c.toNat] := if_pos (Nat.le_of_lt_succ h)

/-- Two bytes hold eleven bits. -/
theorem encodeChar_two {c : Char} (h : 0x80 ≤ c.toNat) (h' : c.toNat < 0x800) :
    String.utf8EncodeChar c
      = [UInt8.ofNat (c.toNat / 64 % 32 + 192), UInt8.ofNat (c.toNat % 64 + 128)] := by
  show (if c.toNat ≤ 127 then _ else if c.toNat ≤ 2047 then _ else _) = _
  rw [if_neg (by omega), if_pos (by omega)]
  rfl

/-- Three bytes hold sixteen bits. -/
theorem encodeChar_three {c : Char} (h : 0x800 ≤ c.toNat) (h' : c.toNat < 0x10000) :
    String.utf8EncodeChar c
      = [UInt8.ofNat (c.toNat / 4096 % 16 + 224), UInt8.ofNat (c.toNat / 64 % 64 + 128),
        UInt8.ofNat (c.toNat % 64 + 128)] := by
  show (if c.toNat ≤ 127 then _ else if c.toNat ≤ 2047 then _ else if c.toNat ≤ 65535 then _
    else _) = _
  rw [if_neg (by omega), if_neg (by omega), if_pos (by omega)]
  rfl

/-- Four bytes hold twenty-one bits. -/
theorem encodeChar_four {c : Char} (h : 0x10000 ≤ c.toNat) :
    String.utf8EncodeChar c
      = [UInt8.ofNat (c.toNat / 262144 % 8 + 240), UInt8.ofNat (c.toNat / 4096 % 64 + 128),
        UInt8.ofNat (c.toNat / 64 % 64 + 128), UInt8.ofNat (c.toNat % 64 + 128)] := by
  show (if c.toNat ≤ 127 then _ else if c.toNat ≤ 2047 then _ else if c.toNat ≤ 65535 then _
    else _) = _
  rw [if_neg (by omega), if_neg (by omega), if_neg (by omega)]
  rfl

/-- The number of a character lies in one of two ranges. -/
theorem toNat_valid (c : Char) : c.toNat < 0xd800 ∨ 0xdfff < c.toNat ∧ c.toNat < 0x110000 :=
  c.valid

/-- **A written character is read, whatever follows.** -/
theorem readChar_encoded (c : Char) : ∃ b cont, String.utf8EncodeChar c = b :: cont ∧
    ∀ rest, readChar b (cont ++ rest) = .char c.toNat (cont.length + 1) := by
  have hvalid := toNat_valid c
  -- by the number of bytes
  by_cases h1 : c.toNat < 0x80
  · refine ⟨_, _, encodeChar_one h1, fun rest => ?_⟩
    have hb := toNat_ofNat_byte (n := c.toNat) (by omega)
    exact (readChar_one_iff (by omega)).mpr ⟨hb, rfl⟩
  by_cases h2 : c.toNat < 0x800
  · refine ⟨_, _, encodeChar_two (by omega) h2, fun rest => ?_⟩
    have hb := toNat_ofNat_byte (n := c.toNat / 64 % 32 + 192) (by omega)
    have hb1 := toNat_ofNat_byte (n := c.toNat % 64 + 128) (by omega)
    refine (readChar_two_iff (by omega) (by omega)).mpr ⟨_, _, rfl, by omega, ?_, rfl⟩
    rw [hb, hb1]
    omega
  by_cases h3 : c.toNat < 0x10000
  · refine ⟨_, _, encodeChar_three (by omega) h3, fun rest => ?_⟩
    have hb := toNat_ofNat_byte (n := c.toNat / 4096 % 16 + 224) (by omega)
    have hb1 := toNat_ofNat_byte (n := c.toNat / 64 % 64 + 128) (by omega)
    have hb2 := toNat_ofNat_byte (n := c.toNat % 64 + 128) (by omega)
    refine (readChar_three_iff (by omega) (by omega)).mpr
      ⟨_, _, _, rfl, by omega, by omega, ?_, rfl, by omega, by omega⟩
    rw [hb, hb1, hb2]
    omega
  · refine ⟨_, _, encodeChar_four (by omega), fun rest => ?_⟩
    have hb := toNat_ofNat_byte (n := c.toNat / 262144 % 8 + 240) (by omega)
    have hb1 := toNat_ofNat_byte (n := c.toNat / 4096 % 64 + 128) (by omega)
    have hb2 := toNat_ofNat_byte (n := c.toNat / 64 % 64 + 128) (by omega)
    have hb3 := toNat_ofNat_byte (n := c.toNat % 64 + 128) (by omega)
    refine (readChar_four_iff (by omega) (by omega)).mpr
      ⟨_, _, _, _, rfl, by omega, by omega, by omega, ?_, rfl, by omega, by omega⟩
    rw [hb, hb1, hb2, hb3]
    omega

/-- A number that is a character is the number of that character; surrogates are none. -/
theorem toNat_ofNat_char {n : Nat} (h : n < 0xd800 ∨ 0xdfff < n ∧ n < 0x110000) :
    (Char.ofNat n).toNat = n := by
  rw [Char.ofNat, dif_pos h]
  rfl

theorem byte_eq_ofNat {b : UInt8} {n : Nat} (h : b.toNat = n) : UInt8.ofNat n = b := by
  rw [← h, UInt8.ofNat_toNat]

/-- **What is read as a character was written for it.** -/
theorem encoded_of_readChar {b : UInt8} {bytes : List UInt8} {code used : Nat}
    (h : readChar b bytes = .char code used) :
    ∃ c cont rest, bytes = cont ++ rest ∧ c.toNat = code ∧ used = cont.length + 1 ∧
      String.utf8EncodeChar c = b :: cont := by
  have hb := b.toNat_lt
  -- by the first byte; what it says of the bytes that follow puts the character in one range
  by_cases h1 : b.toNat < 0x80
  · obtain ⟨rfl, rfl⟩ := (readChar_one_iff h1).mp h
    have hcode := toNat_ofNat_char (n := b.toNat) (by omega)
    refine ⟨_, [], bytes, rfl, hcode, rfl, ?_⟩
    rw [encodeChar_one (by omega), hcode, UInt8.ofNat_toNat]
  by_cases h2 : b.toNat < 0xc2
  · exact absurd h (readChar_ne_char (by omega))
  by_cases h3 : b.toNat < 0xe0
  · obtain ⟨b1, rest, rfl, hb1, hnumber, rfl⟩ := (readChar_two_iff (by omega) h3).mp h
    have hcode := toNat_ofNat_char (n := code) (by omega)
    refine ⟨_, [b1], rest, rfl, hcode, rfl, ?_⟩
    rw [encodeChar_two (by omega) (by omega), hcode, byte_eq_ofNat (b := b) (by omega),
      byte_eq_ofNat (b := b1) (by omega)]
  by_cases h4 : b.toNat < 0xf0
  · obtain ⟨b1, b2, rest, rfl, hb1, hb2, hnumber, rfl, hlong, hvalid⟩ :=
      (readChar_three_iff (by omega) h4).mp h
    have hcode := toNat_ofNat_char (n := code) (by omega)
    refine ⟨_, [b1, b2], rest, rfl, hcode, rfl, ?_⟩
    rw [encodeChar_three (by omega) (by omega), hcode, byte_eq_ofNat (b := b) (by omega),
      byte_eq_ofNat (b := b1) (by omega), byte_eq_ofNat (b := b2) (by omega)]
  by_cases h5 : b.toNat ≤ 0xf4
  · obtain ⟨b1, b2, b3, rest, rfl, hb1, hb2, hb3, hnumber, rfl, hlong, hvalid⟩ :=
      (readChar_four_iff (by omega) h5).mp h
    have hcode := toNat_ofNat_char (n := code) (by omega)
    refine ⟨_, [b1, b2, b3], rest, rfl, hcode, rfl, ?_⟩
    rw [encodeChar_four (by omega), hcode, byte_eq_ofNat (b := b) (by omega),
      byte_eq_ofNat (b := b1) (by omega), byte_eq_ofNat (b := b2) (by omega),
      byte_eq_ofNat (b := b3) (by omega)]
  · exact absurd h (readChar_ne_char (by omega))

/-! ## §6. Whole texts. -/

/-- The bytes of a character that was read are passed over. -/
theorem decodeFrom_skip (cont rest : List UInt8) (i : Nat) :
    decodeFrom cont.length i (cont ++ rest) = decodeFrom 0 (i + cont.length) rest := by
  induction cont generalizing i with
  | nil => rfl
  | cons b cont ih =>
    show decodeFrom cont.length (i + 1) (cont ++ rest) = _
    rw [ih, List.length_cons]
    congr 1
    omega

/-- A character is read from its bytes, and reading goes on after them. -/
theorem decodeFrom_char (b : UInt8) {cont rest : List UInt8} {c : Char} (i : Nat)
    (h : readChar b (cont ++ rest) = .char c.toNat (cont.length + 1)) :
    decodeFrom 0 i (b :: (cont ++ rest))
      = (decodeFrom 0 (i + 1 + cont.length) rest).map (c :: ·) := by
  rw [decodeFrom, h]
  show (decodeFrom (cont.length + 1 - 1) (i + 1) (cont ++ rest)).map (Char.ofNat c.toNat :: ·) = _
  rw [Nat.add_sub_cancel, decodeFrom_skip, Char.ofNat_toNat]

/-- **What was written of characters is read as these characters.** -/
theorem decodeFrom_encoded (cs : List Char) (i : Nat) :
    decodeFrom 0 i (cs.flatMap String.utf8EncodeChar) = .ok cs := by
  induction cs generalizing i with
  | nil => rfl
  | cons c cs ih =>
    obtain ⟨b, cont, hbytes, hread⟩ := readChar_encoded c
    rw [List.flatMap_cons, hbytes, List.cons_append, decodeFrom_char b i (hread _), ih]
    rfl

/-- If something is left to be read, it begins with a character. -/
theorem char_of_decodeFrom {b : UInt8} {bytes : List UInt8} {cs : List Char} {i : Nat}
    (h : decodeFrom 0 i (b :: bytes) = .ok cs) :
    ∃ c cont rest cs' i', bytes = cont ++ rest ∧ String.utf8EncodeChar c = b :: cont ∧
      cs = c :: cs' ∧ decodeFrom 0 i' rest = .ok cs' := by
  cases hread : readChar b bytes with
  | fault good atEnd =>
    rw [decodeFrom, hread] at h
    cases h
  | char code used =>
    obtain ⟨c, cont, rest, rfl, rfl, rfl, hbytes⟩ := encoded_of_readChar hread
    rw [decodeFrom_char b i hread] at h
    obtain ⟨cs', hrest, hcs⟩ := map_eq_ok_iff.mp h
    exact ⟨c, cont, rest, cs', _, rfl, hbytes, hcs.symm, hrest⟩

/-- **What is read as characters was written of them.** -/
theorem encoded_of_decodeFrom {bytes : List UInt8} {cs : List Char} {i : Nat}
    (h : decodeFrom 0 i bytes = .ok cs) : bytes = cs.flatMap String.utf8EncodeChar := by
  -- on the characters, since each takes away as many bytes as it needs
  induction cs generalizing bytes i with
  | nil =>
    cases bytes with
    | nil => rfl
    | cons b bytes =>
      obtain ⟨_, _, _, _, _, -, -, hcs, -⟩ := char_of_decodeFrom h
      cases hcs
  | cons c cs ih =>
    cases bytes with
    | nil => cases h
    | cons b bytes =>
      obtain ⟨c', cont, rest, cs', i', rfl, hbytes, hcs, hrest⟩ := char_of_decodeFrom h
      cases hcs
      rw [List.flatMap_cons, hbytes, ← ih hrest]
      rfl

/-- A list of bytes is made by going through the array. -/
theorem toList_loop (bytes : ByteArray) (i : Nat) (before : List UInt8) :
    ByteArray.toList.loop bytes i before = before.reverse ++ bytes.data.toList.drop i := by
  fun_induction ByteArray.toList.loop bytes i before with
  | case1 i before hlt ih =>
    have hlength : i < bytes.data.toList.length := by simpa using hlt
    have hget : bytes.get! i = bytes.data.toList[i] := getElem!_pos bytes.data i hlt
    rw [ih, List.drop_eq_getElem_cons hlength, hget, List.reverse_cons, List.append_assoc]
    rfl
  | case2 i before hlt =>
    have hlength : bytes.data.toList.length ≤ i := by simpa using Nat.le_of_not_lt hlt
    rw [List.drop_eq_nil_of_le hlength, List.append_nil]

/-- The bytes of an array, whether they are taken by its loop or from its data. -/
theorem toList_eq (bytes : ByteArray) : bytes.toList = bytes.data.toList := by
  unfold ByteArray.toList
  rw [toList_loop]
  rfl

/-- The bytes of a text are those of its characters. -/
theorem encode_eq (s : String) : encode s = s.toList.flatMap String.utf8EncodeChar := by
  unfold encode
  rw [toList_eq, String.toUTF8_eq_toByteArray, ← String.ofList_toList (s := s),
    String.toByteArray_ofList, String.toList_ofList]
  exact List.toList_data_toByteArray

/-- Their number is the size of the text. -/
theorem length_encode (s : String) : (encode s).length = s.utf8ByteSize := by
  unfold encode
  rw [toList_eq, String.toUTF8_eq_toByteArray, ← String.size_toByteArray]
  exact Array.length_toList

/-- **Strict reading accepts exactly what writing produces.** -/
theorem decode_eq_ok_iff {bytes : List UInt8} {s : String} :
    decode bytes = .ok s ↔ bytes = encode s := by
  rw [encode_eq]
  unfold decode
  rw [map_eq_ok_iff]
  constructor
  · rintro ⟨cs, hcs, rfl⟩
    rw [String.toList_ofList]
    exact encoded_of_decodeFrom hcs
  · rintro rfl
    exact ⟨s.toList, decodeFrom_encoded s.toList 0, String.ofList_toList⟩

end Utf8

end SuiteRunner

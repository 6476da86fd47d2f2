import SuiteRunner.Proofs.Text.Bytes
import SuiteRunner.Report.Snapshot

/-!
  SuiteRunner.Proofs.Report.Snapshots
  ────────────────────────────────
  **LONG BODIES ARE CUT BETWEEN TWO CHARACTERS.**

  A character is written as a byte that no other byte of it looks like, and at most three that
  follow.  So the places between characters can be told from the bytes alone, and going back from
  any place, one of them is met after three steps at the latest:

    • `Utf8.isBoundary_iff` — a place is a boundary exactly if a beginning of the text ends there,
    • `Utf8.lastBoundary?_eq` — going back ends at the first boundary that is met,
    • `Snapshot.fitting_longest` — nothing that fits is longer than what is kept,
    • `Snapshot.size_lt_of_dropped` — what is kept falls short by less than a character,
    • `Snapshot.body_cut` — **so what a report keeps of a body is as much as fits, and ends where
      the way back from the limit does.**
-/

namespace SuiteRunner

namespace Utf8

/-! ## §1. Bytes that follow. -/

/-- Whether a byte follows another one in a character. -/
def isFollowing (b : UInt8) : Bool := 0x80 ≤ b.toNat && b.toNat ≤ 0xbf

theorem isFollowing_iff {b : UInt8} : isFollowing b = true ↔ 0x80 ≤ b.toNat ∧ b.toNat ≤ 0xbf := by
  unfold isFollowing
  rw [Bool.and_eq_true, decide_eq_true_eq, decide_eq_true_eq]

theorem isFollowing_ofNat {n : Nat} (h : n < 64) : isFollowing (UInt8.ofNat (n + 128)) = true := by
  have hn := toNat_ofNat_byte (n := n + 128) (by omega)
  exact isFollowing_iff.mpr (by omega)

theorem not_isFollowing_ofNat {n : Nat} (h : n < 128 ∨ 192 ≤ n ∧ n < 256) :
    isFollowing (UInt8.ofNat n) = false := by
  have hn := toNat_ofNat_byte (n := n) (by omega)
  refine Bool.eq_false_iff.mpr fun hfollowing => ?_
  have hbounds := isFollowing_iff.mp hfollowing
  omega

/-- **The first byte of a character does not look like those that follow.** -/
theorem encodeChar_first (c : Char) : ∃ b cont, String.utf8EncodeChar c = b :: cont ∧
    isFollowing b = false ∧ ∀ x ∈ cont, isFollowing x = true := by
  have hvalid := toNat_valid c
  -- by the number of bytes; in the first one, the bits of the character do not reach the mark
  by_cases h1 : c.toNat < 0x80
  · exact ⟨_, _, encodeChar_one h1, not_isFollowing_ofNat (by omega), by simp⟩
  by_cases h2 : c.toNat < 0x800
  · refine ⟨_, _, encodeChar_two (by omega) h2, not_isFollowing_ofNat (by omega), ?_⟩
    exact List.forall_mem_cons.mpr ⟨isFollowing_ofNat (by omega), by simp⟩
  by_cases h3 : c.toNat < 0x10000
  · refine ⟨_, _, encodeChar_three (by omega) h3, not_isFollowing_ofNat (by omega), ?_⟩
    exact List.forall_mem_cons.mpr ⟨isFollowing_ofNat (by omega),
      List.forall_mem_cons.mpr ⟨isFollowing_ofNat (by omega), by simp⟩⟩
  · refine ⟨_, _, encodeChar_four (by omega), not_isFollowing_ofNat (by omega), ?_⟩
    exact List.forall_mem_cons.mpr ⟨isFollowing_ofNat (by omega),
      List.forall_mem_cons.mpr ⟨isFollowing_ofNat (by omega),
        List.forall_mem_cons.mpr ⟨isFollowing_ofNat (by omega), by simp⟩⟩⟩

/-- The bytes of characters. -/
def written (cs : List Char) : List UInt8 := cs.flatMap String.utf8EncodeChar

theorem written_cons (c : Char) (cs : List Char) :
    written (c :: cs) = String.utf8EncodeChar c ++ written cs := List.flatMap_cons

/-- Texts in a row are written one after the other. -/
theorem written_append (cs ds : List Char) : written (cs ++ ds) = written cs ++ written ds :=
  List.flatMap_append

theorem length_written_cons (c : Char) (cs : List Char) :
    (written (c :: cs)).length = c.utf8Size + (written cs).length := by
  rw [written_cons, List.length_append, String.length_utf8EncodeChar]

/-- A text has as many bytes as its size says. -/
theorem length_written (s : String) : (written s.toList).length = s.utf8ByteSize := by
  rw [← length_encode, encode_eq]
  rfl

/-! ## §2. Boundaries. -/

/-- **Whether a place is between two characters,** or at an end of the text, as far as the bytes
tell. -/
def isBoundary (bytes : List UInt8) (i : Nat) : Bool :=
  i == 0 || i == bytes.length || bytes[i]?.any (!isFollowing ·)

/-- A byte that does not follow has whole characters before it. -/
theorem exists_front {cs : List Char} {i : Nat} {b : UInt8} (hget : (written cs)[i]? = some b)
    (hb : isFollowing b = false) :
    ∃ front back, cs = front ++ back ∧ (written front).length = i := by
  -- the byte is the first of this character, one that follows in it, or in the rest of the text
  induction cs generalizing i with
  | nil => cases hget
  | cons c cs ih =>
    obtain ⟨first, cont, hbytes, hfirst, hcont⟩ := encodeChar_first c
    rw [written_cons, hbytes] at hget
    cases i with
    | zero => exact ⟨[], c :: cs, rfl, rfl⟩
    | succ i =>
      rw [List.cons_append, List.getElem?_cons_succ] at hget
      by_cases hinside : i < cont.length
      · rw [List.getElem?_append_left hinside] at hget
        have hfollowing := hcont b (List.mem_of_getElem? hget)
        rw [hb] at hfollowing
        cases hfollowing
      · rw [List.getElem?_append_right (Nat.le_of_not_lt hinside)] at hget
        obtain ⟨front, back, rfl, hlength⟩ := ih hget
        refine ⟨c :: front, back, rfl, ?_⟩
        rw [written_cons, hbytes, List.length_append, List.length_cons, hlength]
        omega

/-- **A place is a boundary exactly if whole characters end there.** -/
theorem isBoundary_iff {cs : List Char} {i : Nat} :
    isBoundary (written cs) i = true ↔
      ∃ front back, cs = front ++ back ∧ (written front).length = i := by
  unfold isBoundary
  rw [Bool.or_eq_true, Bool.or_eq_true, beq_iff_eq, beq_iff_eq]
  constructor
  · rintro ((rfl | rfl) | hbyte)
    · exact ⟨[], cs, rfl, rfl⟩
    · exact ⟨cs, [], (List.append_nil cs).symm, rfl⟩
    · -- a byte that does not follow another one begins a character
      obtain ⟨b, hget, hb⟩ := (Option.any_eq_true _ _).mp hbyte
      exact exists_front hget (Bool.not_eq_true' _ ▸ hb)
  · rintro ⟨front, back, rfl, rfl⟩
    cases back with
    | nil =>
      rw [List.append_nil]
      exact .inl (.inr rfl)
    | cons c back =>
      obtain ⟨first, cont, hbytes, hfirst, -⟩ := encodeChar_first c
      right
      rw [written_append, List.getElem?_append_right (Nat.le_refl _), Nat.sub_self, written_cons,
        hbytes]
      show (!isFollowing first) = true
      rw [hfirst]
      rfl

/-- **The way back to a boundary,** one byte after another; nothing if the start of the text is
passed. -/
def lastBoundary? (bytes : List UInt8) : Nat → Option Nat
  | 0 => if isBoundary bytes 0 then some 0 else none
  | i + 1 => if isBoundary bytes (i + 1) then some (i + 1) else lastBoundary? bytes i

/-- A boundary is the last one at or before itself. -/
theorem lastBoundary?_of_boundary {bytes : List UInt8} {i : Nat} (h : isBoundary bytes i = true) :
    lastBoundary? bytes i = some i := by
  cases i with
  | zero => exact if_pos h
  | succ i => exact if_pos h

/-- **The way back ends at the first boundary that is met.** -/
theorem lastBoundary?_eq {bytes : List UInt8} {k i : Nat} (hk : isBoundary bytes k = true)
    (hle : k ≤ i) (hnone : ∀ j, k < j → j ≤ i → isBoundary bytes j = false) :
    lastBoundary? bytes i = some k := by
  induction i with
  | zero =>
    obtain rfl := Nat.le_zero.mp hle
    exact lastBoundary?_of_boundary hk
  | succ i ih =>
    by_cases hlast : k = i + 1
    · subst hlast
      exact lastBoundary?_of_boundary hk
    · have hnot := hnone (i + 1) (by omega) (Nat.le_refl _)
      show (if isBoundary bytes (i + 1) = true then _ else lastBoundary? bytes i) = some k
      rw [hnot, if_neg Bool.false_ne_true]
      exact ih (by omega) fun j hj hji => hnone j hj (by omega)

end Utf8

namespace Snapshot

open Utf8 (written)

/-! ## §3. What fits. -/

theorem fitting_cons (limit : Nat) (c : Char) (cs : List Char) : fitting limit (c :: cs)
    = if c.utf8Size ≤ limit then c :: fitting (limit - c.utf8Size) cs else [] := rfl

/-- **What fits is within the limit.** -/
theorem size_fitting_le (limit : Nat) (cs : List Char) :
    (written (fitting limit cs)).length ≤ limit := by
  induction cs generalizing limit with
  | nil => exact Nat.zero_le _
  | cons c cs ih =>
    rw [fitting_cons]
    by_cases hfits : c.utf8Size ≤ limit
    · have hrest := ih (limit - c.utf8Size)
      rw [if_pos hfits, Utf8.length_written_cons]
      omega
    · rw [if_neg hfits]
      exact Nat.zero_le _

/-- What fits is a beginning. -/
theorem fitting_prefix (limit : Nat) (cs : List Char) : fitting limit cs <+: cs := by
  induction cs generalizing limit with
  | nil => exact List.prefix_refl _
  | cons c cs ih =>
    rw [fitting_cons]
    by_cases hfits : c.utf8Size ≤ limit
    · rw [if_pos hfits]
      exact List.prefix_cons_inj c |>.mpr (ih _)
    · rw [if_neg hfits]
      exact List.nil_prefix

/-- **Nothing that fits is longer than what is kept.** -/
theorem fitting_longest {limit : Nat} {front : List Char} (h : (written front).length ≤ limit)
    (back : List Char) : front <+: fitting limit (front ++ back) := by
  induction front generalizing limit with
  | nil => exact List.nil_prefix
  | cons c front ih =>
    rw [Utf8.length_written_cons] at h
    rw [List.cons_append, fitting_cons, if_pos (by omega)]
    exact List.prefix_cons_inj c |>.mpr (ih (by omega))

/-- **What is kept falls short of the limit by less than a character,** if anything is dropped. -/
theorem size_lt_of_dropped {limit : Nat} {cs dropped : List Char}
    (h : cs = fitting limit cs ++ dropped) (hne : dropped ≠ []) :
    limit < (written (fitting limit cs)).length + 4 := by
  obtain ⟨c, rest, rfl⟩ := List.exists_cons_of_ne_nil hne
  -- the next character would have been kept, if it fitted
  refine Nat.lt_of_not_le fun hroom => ?_
  have hsize := c.utf8Size_le_four
  have hnext : (written (fitting limit cs ++ [c])).length ≤ limit := by
    rw [Utf8.written_append, List.length_append, Utf8.length_written_cons]
    show _ + (c.utf8Size + 0) ≤ limit
    omega
  have hlonger := fitting_longest hnext rest
  rw [List.append_assoc, List.singleton_append, ← h] at hlonger
  have hlength := hlonger.length_le
  rw [List.length_append, List.length_singleton] at hlength
  omega

/-- A character of three bytes is dropped as a whole if two of them would fit. -/
example : fitting 4 ['a', 'b', '€', 'c'] = ['a', 'b'] := by decide

/-! ## §4. What is kept of a text. -/

/-- On texts, a boundary is the end of a beginning. -/
theorem isBoundary_encode_iff {text : String} {i : Nat} :
    Utf8.isBoundary (Utf8.encode text) i = true ↔
      ∃ front back : String, text = front ++ back ∧ front.utf8ByteSize = i := by
  rw [Utf8.encode_eq]
  constructor
  · intro h
    obtain ⟨front, back, htext, hlength⟩ := Utf8.isBoundary_iff.mp h
    refine ⟨String.ofList front, String.ofList back, String.toList_injective ?_, ?_⟩
    · rw [String.toList_append, String.toList_ofList, String.toList_ofList, htext]
    · rw [← Utf8.length_written, String.toList_ofList, hlength]
  · rintro ⟨front, back, rfl, rfl⟩
    exact Utf8.isBoundary_iff.mpr
      ⟨front.toList, back.toList, String.toList_append, Utf8.length_written front⟩

/-- **The longest beginning of a text that has at most so many bytes.** -/
structure LongestWithin (limit : Nat) (text kept : String) : Prop where
  fits : kept.utf8ByteSize ≤ limit
  longest : ∀ front back : String, text = front ++ back → front.utf8ByteSize ≤ limit →
    ∃ more, kept = front ++ more

/-- **What fits is the longest beginning within the limit.** -/
theorem longestWithin_fitting (limit : Nat) (text : String) :
    LongestWithin limit text (String.ofList (fitting limit text.toList)) where
  fits := by
    rw [← Utf8.length_written, String.toList_ofList]
    exact size_fitting_le limit text.toList
  longest := by
    rintro front back rfl hfront
    rw [← Utf8.length_written] at hfront
    obtain ⟨more, hmore⟩ := fitting_longest hfront back.toList
    refine ⟨String.ofList more, String.toList_injective ?_⟩
    rw [String.toList_ofList, String.toList_append, String.toList_append, String.toList_ofList,
      hmore]

/-- **The way back from the limit ends where the longest beginning does.** -/
theorem LongestWithin.lastBoundary?_eq {limit : Nat} {kept dropped : String}
    (h : LongestWithin limit (kept ++ dropped) kept) :
    Utf8.lastBoundary? (Utf8.encode (kept ++ dropped))
      (min (kept ++ dropped).utf8ByteSize limit) = some kept.utf8ByteSize := by
  have hsize := String.utf8ByteSize_append (s := kept) (t := dropped)
  refine Utf8.lastBoundary?_eq (isBoundary_encode_iff.mpr ⟨kept, dropped, rfl, rfl⟩)
    (Nat.le_min.mpr ⟨by omega, h.fits⟩) fun j hj hle => Bool.eq_false_iff.mpr fun hboundary => ?_
  -- at a boundary behind it a longer beginning would end
  obtain ⟨front, back, htext, rfl⟩ := isBoundary_encode_iff.mp hboundary
  obtain ⟨more, rfl⟩ := h.longest front back htext (Nat.le_trans hle (Nat.min_le_right _ _))
  rw [String.utf8ByteSize_append] at hj
  omega

/-- **A text that is cut:** into its longest beginning and the rest, where the way back from the
limit ends, which takes three steps at most; the bytes before that place are a text. -/
structure CutAt (limit : Nat) (text kept dropped : String) : Prop where
  whole : text = kept ++ dropped
  longest : LongestWithin limit text kept
  found : Utf8.lastBoundary? (Utf8.encode text) (min text.utf8ByteSize limit)
    = some kept.utf8ByteSize
  near : min text.utf8ByteSize limit ≤ kept.utf8ByteSize + 3
  decoded : Utf8.decode ((Utf8.encode text).take kept.utf8ByteSize) = .ok kept

/-- **Every text is cut after what fits.** -/
theorem exists_cutAt (limit : Nat) (text : String) :
    ∃ dropped, CutAt limit text (String.ofList (fitting limit text.toList)) dropped := by
  have hlongest := longestWithin_fitting limit text
  obtain ⟨rest, hrest⟩ := fitting_prefix limit text.toList
  generalize hkept : String.ofList (fitting limit text.toList) = kept at hlongest ⊢
  have hwhole : text = kept ++ String.ofList rest := by
    apply String.toList_injective
    rw [String.toList_append, ← hkept, String.toList_ofList, String.toList_ofList, hrest]
  refine ⟨String.ofList rest, hwhole, hlongest, ?_, ?_, ?_⟩
  · -- the boundary that is searched for, the room that was left, and what the bytes say
    subst hwhole
    exact hlongest.lastBoundary?_eq
  · cases rest with
    | nil =>
      have hall : text.utf8ByteSize = kept.utf8ByteSize := by
        rw [hwhole, String.utf8ByteSize_append]
        rfl
      omega
    | cons c rest =>
      have hroom := size_lt_of_dropped hrest.symm (List.cons_ne_nil c rest)
      have hsize : (written (fitting limit text.toList)).length = kept.utf8ByteSize := by
        rw [← hkept, ← Utf8.length_written, String.toList_ofList]
      omega
  · rw [Utf8.decode_eq_ok_iff, hwhole, Utf8.encode_eq, Utf8.encode_eq, String.toList_append,
      List.flatMap_append]
    exact List.take_left' (Utf8.length_written kept)

/-- Something is dropped exactly if the text has more bytes. -/
theorem CutAt.dropped_eq_empty_iff {limit : Nat} {text kept dropped : String}
    (h : CutAt limit text kept dropped) : dropped = "" ↔ text.utf8ByteSize ≤ limit := by
  have hsize : text.utf8ByteSize = kept.utf8ByteSize + dropped.utf8ByteSize := by
    rw [h.whole, String.utf8ByteSize_append]
  constructor
  · rintro rfl
    have hfits := h.longest.fits
    have hempty : "".utf8ByteSize = 0 := rfl
    omega
  · intro hle
    obtain ⟨more, hmore⟩ := h.longest.longest text "" String.append_empty.symm hle
    have hkept : kept.utf8ByteSize = text.utf8ByteSize + more.utf8ByteSize := by
      rw [hmore, String.utf8ByteSize_append]
    exact String.utf8ByteSize_eq_zero_iff.mp (by omega)

/-! ## §5. Bodies. -/

/-- **A text is kept up to where it is cut,** with dots if something is dropped. -/
theorem shortened_cutAt (text : String) : ∃ kept dropped, CutAt bodyLimit text kept dropped ∧
    shortened text = kept ++ if dropped = "" then "" else "..." := by
  obtain ⟨dropped, hcut⟩ := exists_cutAt bodyLimit text
  refine ⟨_, dropped, hcut, ?_⟩
  unfold shortened
  by_cases hle : text.utf8ByteSize ≤ bodyLimit
  · have hdropped := hcut.dropped_eq_empty_iff.mpr hle
    have hwhole := hcut.whole
    rw [hdropped, String.append_empty] at hwhole
    rw [if_pos hle, if_pos hdropped, String.append_empty]
    exact hwhole
  · rw [if_neg hle, if_neg (mt hcut.dropped_eq_empty_iff.mp hle)]

/-- **WHAT A REPORT KEEPS OF A BODY.**  A document is kept as it is, if its text has at most 4096
bytes.  All that is kept of any other body is a text: the longest beginning of the body that has at
most 4096 bytes, and three dots behind it exactly if something was dropped.  The way back from the
limit, or from the end of a shorter text, to a place between two characters comes to an end before
the start of the text is passed, and takes three steps at most. -/
theorem body_cut (status : Nat) (headers : TextMap) (text : String) (document : Option Json) :
    (of status headers text document).status = status ∧
    (of status headers text document).headers = headers ∧
    (∀ v, document = some v → text.utf8ByteSize ≤ 4096 →
      (of status headers text document).body = v) ∧
    (document = none ∨ 4096 < text.utf8ByteSize → ∃ kept dropped,
      CutAt 4096 text kept dropped ∧ (of status headers text document).body
        = .str (kept ++ if dropped = "" then "" else "...")) := by
  refine ⟨rfl, rfl, ?_, fun hother => ?_⟩
  · rintro v rfl hle
    exact if_pos hle
  · obtain ⟨kept, dropped, hcut, hshort⟩ := shortened_cutAt text
    refine ⟨kept, dropped, hcut, ?_⟩
    rw [← hshort]
    cases document with
    | none => rfl
    | some v =>
      obtain hnone | hlong := hother
      · cases hnone
      · exact if_neg (Nat.not_le_of_lt hlong)

end Snapshot

end SuiteRunner

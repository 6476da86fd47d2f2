import SuiteRunner.Cipher.TextCipher
import SuiteRunner.Proofs.Text.Bytes
import SuiteRunner.Proofs.Text.Cutting

/-!
  SuiteRunner.Proofs.Cipher.TextCipher
  ────────────────────────────────
  **SECRET TEXTS ARE READ BACK.**

  A keystream that is added twice is gone, and it is as long as what it is added to.  The tag is
  made of the sum, which is there when it is opened, too.  So what the cipher on blocks and the
  polynomial are does not matter here, only that a block has sixteen bytes:

    • `Cipher.stream_stream` — a keystream added twice is gone,
    • `Cipher.length_sealBytes` — sealing adds sixteen bytes,
    • `Cipher.openBytes?_eq_some_iff` — **what can be opened is what was sealed, and nothing else.**

  A text is written as bytes, the bytes are sealed, and the nonce and what was sealed are written as
  characters.  Each of the three can be undone in one way only, so a text can be decrypted if, apart
  from blanks around it, it is what encrypting gives for some nonce:

    • `TextCipher.trim_encode` — blanks around base64 do not count,
    • `TextCipher.length_encrypt` — an encrypted text is as long as its bytes and 28 more make it,
    • `TextCipher.decrypt_eq_ok_iff` — what can be decrypted was encrypted,
    • `TextCipher.encrypted_reads_back` — **so every text is read back, and anything else is an
      error.**
-/

namespace SuiteRunner

namespace Cipher

/-! ## §1. Sums of bytes. -/

/-- The sum of two rows of bytes is as long as the shorter one. -/
theorem length_addBytes (a b : List UInt8) :
    (addBytes a b).length = min a.length b.length := List.length_zipWith

/-- What is added twice is gone. -/
theorem addBytes_addBytes {a b : List UInt8} (h : a.length ≤ b.length) :
    addBytes (addBytes a b) b = a := by
  induction a generalizing b with
  | nil => rfl
  | cons x a ih =>
    cases b with
    | nil => exact absurd h (Nat.not_succ_le_zero _)
    | cons y b =>
      show (x ^^^ y ^^^ y) :: addBytes (addBytes a b) b = x :: a
      rw [ih (Nat.le_of_succ_le_succ h), UInt8.xor_assoc, UInt8.xor_self, UInt8.xor_zero]

theorem length_bytes (x : Block) : x.bytes.length = 16 := rfl

/-! ## §2. The keystream. -/

variable (keys : List Block) (nonce : List UInt8)

/-- The keystream from a number on, added to bytes. -/
def stream (n : Nat) (bytes : List UInt8) : List UInt8 :=
  streamGroups keys nonce n (sixteens bytes)

theorem stream_nil (n : Nat) : stream keys nonce n [] = [] := by
  unfold stream
  rw [sixteens]
  rfl

/-- One block of the keystream is added to the first sixteen bytes, and the rest of it to the
others. -/
theorem stream_cons (n : Nat) (b : UInt8) (rest : List UInt8) :
    stream keys nonce n (b :: rest)
      = addBytes (b :: rest.take 15) (encipher keys (counterBlock nonce n)).bytes
        ++ stream keys nonce (n + 1) (rest.drop 15) := by
  unfold stream
  rw [sixteens]
  rfl

/-- A group of at most sixteen bytes keeps its length. -/
theorem length_group_sum (b : UInt8) (rest : List UInt8) (x : Block) :
    (addBytes (b :: rest.take 15) x.bytes).length = (b :: rest.take 15).length := by
  rw [length_addBytes, length_bytes, List.length_cons]
  exact Nat.min_eq_left (Nat.succ_le_succ (List.length_take_le 15 rest))

/-- A text under the keystream is as long as before. -/
theorem length_stream (n : Nat) (bytes : List UInt8) :
    (stream keys nonce n bytes).length = bytes.length := by
  induction bytes using sixteens.induct generalizing n with
  | case1 => rw [stream_nil]
  | case2 b rest ih =>
    rw [stream_cons, List.length_append, length_group_sum, ih, ← List.length_append,
      List.cons_append, List.take_append_drop]

/-- Groups of sixteen bytes, the last of which may be shorter, are found again when something is
put in the place of each. -/
theorem stream_groups (n : Nat) {b : UInt8} {group rest : List UInt8}
    (hgroup : group.length ≤ 15) (hrest : rest ≠ [] → group.length = 15) :
    stream keys nonce n (b :: (group ++ rest))
      = addBytes (b :: group) (encipher keys (counterBlock nonce n)).bytes
        ++ stream keys nonce (n + 1) rest := by
  have hcut : (group ++ rest).take 15 = group ∧ (group ++ rest).drop 15 = rest := by
    cases rest with
    | nil =>
      rw [List.append_nil]
      exact ⟨List.take_of_length_le hgroup, List.drop_eq_nil_of_le hgroup⟩
    | cons c rest =>
      have hfull := hrest (List.cons_ne_nil c rest)
      exact ⟨List.take_left' hfull, List.drop_left' hfull⟩
  rw [stream_cons, hcut.1, hcut.2]

/-- **A keystream that is added twice is gone.** -/
theorem stream_stream (n : Nat) (bytes : List UInt8) :
    stream keys nonce n (stream keys nonce n bytes) = bytes := by
  -- on the groups; sums are as long as what was added to, so the groups are the same both times
  induction bytes using sixteens.induct generalizing n with
  | case1 => rw [stream_nil, stream_nil]
  | case2 b rest ih =>
    have hblock := length_bytes (encipher keys (counterBlock nonce n))
    have hlength := length_group_sum b rest (encipher keys (counterBlock nonce n))
    have htwice := addBytes_addBytes (a := b :: rest.take 15)
      (b := (encipher keys (counterBlock nonce n)).bytes)
      (by rw [hblock]; exact Nat.succ_le_succ (List.length_take_le 15 rest))
    rw [stream_cons]
    cases hsum : addBytes (b :: rest.take 15) (encipher keys (counterBlock nonce n)).bytes with
    | nil =>
      rw [hsum] at hlength
      cases hlength
    | cons c group =>
      rw [hsum] at hlength htwice
      have hgroup : group.length = (rest.take 15).length := Nat.succ.inj hlength
      rw [List.cons_append, stream_groups, htwice, ih, List.cons_append, List.take_append_drop]
      · rw [hgroup]
        exact List.length_take_le 15 rest
      · -- if more follows, the group is full
        intro hne
        have hmore : rest.drop 15 ≠ [] := fun hnil => hne (by rw [hnil, stream_nil])
        have hlong : 15 < rest.length := by
          have hpos := List.length_pos_iff.mpr hmore
          rw [List.length_drop] at hpos
          omega
        rw [hgroup, List.length_take, Nat.min_eq_left (Nat.le_of_lt hlong)]

theorem length_addKeystream (bytes : List UInt8) :
    (addKeystream keys nonce bytes).length = bytes.length := length_stream keys nonce 2 bytes

/-- **The keystream added twice gives back the text.** -/
theorem addKeystream_addKeystream (bytes : List UInt8) :
    addKeystream keys nonce (addKeystream keys nonce bytes) = bytes :=
  stream_stream keys nonce 2 bytes

/-! ## §3. Sealing and opening. -/

/-- A tag has sixteen bytes. -/
theorem length_tag (bytes : List UInt8) : (tag keys nonce bytes).length = tagLength := by
  unfold tag bytesOfBits
  rw [length_addBytes, length_bytes, List.length_map, List.length_range]
  rfl

variable (key : List UInt8)

/-- What is sealed is the text under the keystream, then the tag of that. -/
theorem sealBytes_eq (bytes : List UInt8) :
    sealBytes key nonce bytes = addKeystream (roundKeys key) nonce bytes
      ++ tag (roundKeys key) nonce (addKeystream (roundKeys key) nonce bytes) := rfl

/-- **Sealing adds sixteen bytes.** -/
theorem length_sealBytes (bytes : List UInt8) :
    (sealBytes key nonce bytes).length = bytes.length + tagLength := by
  rw [sealBytes_eq, List.length_append, length_tag, length_addKeystream]

/-- **What can be opened is what was sealed, and nothing else.** -/
theorem openBytes?_eq_some_iff {sealed_ bytes : List UInt8} :
    openBytes? key nonce sealed_ = some bytes ↔ sealed_ = sealBytes key nonce bytes := by
  constructor
  · intro h
    unfold openBytes? at h
    split at h
    · cases h
    · obtain ⟨htag, hbytes⟩ := Option.ite_none_right_eq_some.mp h
      cases hbytes
      rw [sealBytes_eq, addKeystream_addKeystream, ← htag, List.take_append_drop]
  · rintro rfl
    have hlength := length_sealBytes nonce key bytes
    have hcut : (sealBytes key nonce bytes).length - tagLength
        = (addKeystream (roundKeys key) nonce bytes).length := by
      rw [hlength, length_addKeystream, Nat.add_sub_cancel]
    unfold openBytes?
    rw [if_neg (by omega), hcut, sealBytes_eq, List.take_left, List.drop_left, if_pos rfl,
      addKeystream_addKeystream]

end Cipher

namespace TextCipher

open Text (Blank)

/-! ## §4. Bytes of texts. -/

/-- There are no blanks in base64, so none at its ends. -/
theorem tight_encode (bytes : List UInt8) : Text.Tight (Base64.encode bytes).toList := by
  have hblank : ∀ x ∈ (Base64.encode bytes).toList, Text.isBlank x = false := by
    unfold Base64.encode
    rw [String.toList_ofList]
    exact fun x hx => Base64.isBlank_of_mem_encodeBytes hx
  exact ⟨fun x hx => hblank x (List.mem_of_head? hx),
    fun x hx => hblank x (List.mem_of_getLast? hx)⟩

/-- **Blanks around base64 do not count.** -/
theorem trim_encode {before after : String} (hbefore : Blank before.toList)
    (hafter : Blank after.toList) (bytes : List UInt8) :
    Text.trim (before ++ Base64.encode bytes ++ after) = Base64.encode bytes := by
  unfold Text.trim
  rw [String.toList_append, String.toList_append, Text.trimChars_padded hbefore hafter,
    (tight_encode bytes).trimChars_eq, String.ofList_toList]

/-- A text stands for bytes exactly if it is what is written for them, blanks around it apart. -/
theorem bytesOfText_eq_ok_iff {what text : String} {bytes : List UInt8} :
    bytesOfText what text = .ok bytes ↔ Text.trim text = Base64.encode bytes := by
  rw [← Base64.decode?_eq_some_iff]
  unfold bytesOfText
  cases Base64.decode? (Text.trim text) with
  | none => simp
  | some b => simp

/-! ## §5. Encrypting and decrypting. -/

variable (c : TextCipher)

/-- The bytes of an encrypted text: those of the text, the nonce and the tag. -/
theorem length_framed (nonce : Nonce) (plain : String) :
    (nonce.bytes ++ Cipher.sealBytes c.key nonce.bytes (Utf8.encode plain)).length
      = 28 + plain.utf8ByteSize := by
  have htag : Cipher.tagLength = 16 := rfl
  rw [List.length_append, nonce.length_bytes, Cipher.length_sealBytes, Utf8.length_encode]
  omega

/-- **An encrypted text is as long as its bytes and 28 more make it.** -/
theorem length_encrypt (nonce : Nonce) (plain : String) :
    (c.encrypt nonce plain).length = 4 * ((28 + plain.utf8ByteSize + 2) / 3) := by
  unfold encrypt
  rw [Base64.length_encode, length_framed]

/-- The text that was sealed as bytes. -/
def openText (nonce sealed_ : List UInt8) : Except Failure String :=
  match Cipher.openBytes? c.key nonce sealed_ with
  | none => .error (.cipher "aead::Error")
  | some plain =>
    match Utf8.decode plain with
    | .ok s => .ok s
    | .error f => .error (.cipher f.message)

/-- A text is decrypted by its first twelve bytes, which are the nonce, and all that follow. -/
theorem decrypt_eq (text : String) :
    c.decrypt text = bytesOfText "ciphertext" text >>= fun data =>
      if data.length ≤ 12 then .error (.cipher "Ciphertext too short")
      else c.openText (data.take 12) (data.drop 12) := rfl

/-- **Bytes open to a text exactly if they were sealed for it,** with this key and nonce. -/
theorem openText_eq_ok_iff {nonce sealed_ : List UInt8} {plain : String} :
    c.openText nonce sealed_ = .ok plain ↔
      sealed_ = Cipher.sealBytes c.key nonce (Utf8.encode plain) := by
  rw [← Cipher.openBytes?_eq_some_iff]
  unfold openText
  cases Cipher.openBytes? c.key nonce sealed_ with
  | none => simp
  | some bytes =>
    rw [Option.some.injEq, ← Utf8.decode_eq_ok_iff]
    cases hread : Utf8.decode bytes with
    | ok s => simp [hread]
    | error f => simp [hread]

/-- **What can be decrypted was encrypted,** with some nonce. -/
theorem decrypt_eq_ok_iff {text plain : String} :
    c.decrypt text = .ok plain ↔ ∃ nonce, Text.trim text = c.encrypt nonce plain := by
  rw [decrypt_eq, bind_eq_ok_iff]
  constructor
  · rintro ⟨data, hdata, h⟩
    split at h
    · cases h
    · next hlong =>
      have hsealed := (openText_eq_ok_iff c).mp h
      have hlength : (data.take 12).length = 12 := by
        rw [List.length_take]
        omega
      refine ⟨⟨data.take 12, hlength⟩, ?_⟩
      rw [bytesOfText_eq_ok_iff.mp hdata]
      unfold encrypt
      rw [← hsealed, List.take_append_drop]
  · rintro ⟨nonce, htext⟩
    refine ⟨_, bytesOfText_eq_ok_iff.mpr htext, ?_⟩
    have hlength := length_framed c nonce plain
    rw [if_neg (by omega), List.take_left' nonce.length_bytes, List.drop_left' nonce.length_bytes]
    exact (openText_eq_ok_iff c).mpr rfl

/-- Decrypting fails with a reason of its own. -/
theorem decrypt_cases (text : String) :
    (∃ plain, c.decrypt text = .ok plain) ∨ ∃ reason, c.decrypt text = .error (.cipher reason) := by
  rw [decrypt_eq]
  unfold bytesOfText openText
  cases Base64.decode? (Text.trim text) with
  | none => exact .inr ⟨_, rfl⟩
  | some data =>
    rw [ok_bind]
    split
    · exact .inr ⟨_, rfl⟩
    split
    · exact .inr ⟨_, rfl⟩
    split
    · exact .inl ⟨_, rfl⟩
    · exact .inr ⟨_, rfl⟩

/-- **EVERY TEXT IS READ BACK.**  With a key of thirty-two bytes there is a cipher.  Whatever the
nonce and the text, and whatever blanks are put around the encrypted text, the text comes back; and
the encrypted text is as long as twenty-eight bytes more than those of the text are in base64.
Nothing else is decrypted than what encrypting gives for some nonce; so if what is between the
blanks is not base64 of at least thirteen bytes, that is an error. -/
theorem encrypted_reads_back {key : List UInt8} (hkey : key.length = 32) :
    ∃ c : TextCipher, ofKey key = .ok c ∧ c.key = key ∧
      (∀ nonce plain,
        (∀ before after : String, Blank before.toList → Blank after.toList →
          c.decrypt (before ++ c.encrypt nonce plain ++ after) = .ok plain) ∧
        (c.encrypt nonce plain).length = 4 * ((28 + plain.utf8ByteSize + 2) / 3)) ∧
      (∀ text plain,
        c.decrypt text = .ok plain ↔ ∃ nonce, Text.trim text = c.encrypt nonce plain) ∧
      ∀ text, (¬ ∃ bytes, 13 ≤ bytes.length ∧ Text.trim text = Base64.encode bytes) →
        ∃ reason, c.decrypt text = .error (.cipher reason) := by
  refine ⟨⟨key, hkey⟩, dif_pos hkey, rfl, fun nonce plain => ⟨?_, length_encrypt _ nonce plain⟩,
    fun _ _ => decrypt_eq_ok_iff _, fun text hnot => ?_⟩
  · intro before after hbefore hafter
    exact (decrypt_eq_ok_iff _).mpr ⟨nonce, trim_encode hbefore hafter _⟩
  · obtain ⟨plain, hplain⟩ | hfails := decrypt_cases ⟨key, hkey⟩ text
    · -- what was encrypted has 28 bytes and those of the text
      obtain ⟨nonce, htext⟩ := (decrypt_eq_ok_iff _).mp hplain
      have hlength := length_framed ⟨key, hkey⟩ nonce plain
      exact absurd ⟨_, by omega, htext⟩ hnot
    · exact hfails

theorem encrypted_reads_back_empty :
    ∃ c : TextCipher, ofKey (List.replicate 32 7) = .ok c ∧
      c.decrypt ("\n" ++ c.encrypt ⟨List.replicate 12 0, List.length_replicate⟩ "" ++ " ") = .ok "" ∧
      (c.encrypt ⟨List.replicate 12 0, List.length_replicate⟩ "").length = 40 ∧
      ∃ reason, c.decrypt "AAAA" = .error (.cipher reason) := by
  obtain ⟨c, hc, -, hback, -, hshort⟩ :=
    encrypted_reads_back (List.length_replicate : (List.replicate 32 (7 : UInt8)).length = 32)
  obtain ⟨hread, hlength⟩ := hback ⟨List.replicate 12 0, List.length_replicate⟩ ""
  refine ⟨c, hc, hread "\n" " " (by decide) (by decide), hlength, hshort "AAAA" ?_⟩
  rintro ⟨bytes, hlong, htext⟩
  have hfour : (Text.trim "AAAA").length = 4 := by decide
  rw [htext, Base64.length_encode] at hfour
  omega

end TextCipher

end SuiteRunner

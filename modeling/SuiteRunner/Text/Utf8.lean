/-!
  SuiteRunner.Text.Utf8
  ────────────────────────────────
  **BYTES AND TEXT.**

  A text is written as the bytes of its UTF-8 encoding.  Reading either refuses at the first fault
  and says where it is, or puts the replacement character in the place of every fault.  A fault is
  a longest run of bytes that could begin a character but does not become one.
-/

namespace SuiteRunner.Utf8

/-- The bytes of a text. -/
def encode (s : String) : List UInt8 := s.toUTF8.toList

/-! ## §1. One character. -/

/-- What a first byte promises: how many bytes follow, the bounds of the next one, and the bits of
the character that the first byte holds. -/
structure Lead where
  following : Nat
  low : Nat
  high : Nat
  bits : Nat

/-- What a first byte promises; nothing for a byte that cannot be first. -/
def lead? (b : Nat) : Option Lead :=
  if b < 0x80 then some ⟨0, 0x80, 0xbf, b⟩
  else if b < 0xc2 then none
  else if b < 0xe0 then some ⟨1, 0x80, 0xbf, b - 0xc0⟩
  else if b = 0xe0 then some ⟨2, 0xa0, 0xbf, 0⟩
  else if b = 0xed then some ⟨2, 0x80, 0x9f, 13⟩
  else if b < 0xf0 then some ⟨2, 0x80, 0xbf, b - 0xe0⟩
  else if b = 0xf0 then some ⟨3, 0x90, 0xbf, 0⟩
  else if b < 0xf4 then some ⟨3, 0x80, 0xbf, b - 0xf0⟩
  else if b = 0xf4 then some ⟨3, 0x80, 0x8f, 4⟩
  else none

/-- What the bytes after a first byte give: a character and how many bytes it took, or the number
of good bytes before the fault and whether the fault is the end of the bytes. -/
inductive Follow where
  | char (code used : Nat)
  | fault (good : Nat) (atEnd : Bool)
  deriving DecidableEq, Repr

/-- Read bytes that follow a first byte. -/
def follow : Nat → Nat → Nat → Nat → Nat → List UInt8 → Follow
  | 0, _, _, code, used, _ => .char code used
  | _ + 1, _, _, _, used, [] => .fault used true
  | n + 1, low, high, code, used, b :: rest =>
    if low ≤ b.toNat ∧ b.toNat ≤ high then
      follow n 0x80 0xbf (64 * code + (b.toNat - 0x80)) (used + 1) rest
    else .fault used false

/-- Read one character. -/
def readChar (b : UInt8) (rest : List UInt8) : Follow :=
  match lead? b.toNat with
  | none => .fault 1 false
  | some l => follow l.following l.low l.high l.bits 1 rest

/-! ## §2. Whole texts. -/

/-- Why bytes are not a text: how many bytes come before the fault, and how long the fault is if
it is not the end of the bytes. -/
structure Fault where
  validUpTo : Nat
  length : Option Nat
  deriving DecidableEq, Repr

/-- The text of a fault. -/
def Fault.message (f : Fault) : String :=
  match f.length with
  | some n =>
    "invalid utf-8 sequence of " ++ toString n ++ " bytes from index " ++ toString f.validUpTo
  | none => "incomplete utf-8 byte sequence from index " ++ toString f.validUpTo

/-- Read characters; `skip` bytes belong to a character that was read. -/
def decodeFrom : Nat → Nat → List UInt8 → Except Fault (List Char)
  | _, _, [] => .ok []
  | skip + 1, i, _ :: rest => decodeFrom skip (i + 1) rest
  | 0, i, b :: rest =>
    match readChar b rest with
    | .char code used => (decodeFrom (used - 1) (i + 1) rest).map (Char.ofNat code :: ·)
    | .fault good atEnd => .error ⟨i, if atEnd then none else some good⟩

/-- **The text of bytes,** or the first fault. -/
def decode (bytes : List UInt8) : Except Fault String := (decodeFrom 0 0 bytes).map String.ofList

/-- The character that stands for a fault. -/
def replacement : Char := '\ufffd'

/-- Read characters, faults replaced. -/
def repairFrom : Nat → List UInt8 → List Char
  | _, [] => []
  | skip + 1, _ :: rest => repairFrom skip rest
  | 0, b :: rest =>
    match readChar b rest with
    | .char code used => Char.ofNat code :: repairFrom (used - 1) rest
    | .fault good _ => replacement :: repairFrom (good - 1) rest

/-- **The text of bytes, faults replaced.** -/
def repair (bytes : List UInt8) : String := String.ofList (repairFrom 0 bytes)

end SuiteRunner.Utf8

import SuiteRunner.Cipher.Block

/-!
  SuiteRunner.Cipher.Sealing
  ────────────────────────────────
  **ENCRYPTION THAT NOTICES TAMPERING.**

  The bytes are added to a keystream, which is the block cipher on counter blocks made of a nonce
  and a number.  A tag over the result comes after it: a polynomial in a secret block, masked with
  the first counter block.  Opening compares the tag before it uses the keystream.
-/

namespace SuiteRunner.Cipher

/-! ## §1. The keystream. -/

/-- The four bytes of a number, the highest first. -/
def counterBytes (n : Nat) : List UInt8 :=
  [UInt8.ofNat (n / 16777216), UInt8.ofNat (n / 65536), UInt8.ofNat (n / 256), UInt8.ofNat n]

/-- The counter block of a nonce and a number. -/
def counterBlock (nonce : List UInt8) (n : Nat) : Block := .ofBytes (nonce ++ counterBytes n)

/-- The sum of two lists of bytes, as long as the shorter one. -/
def addBytes (a b : List UInt8) : List UInt8 := List.zipWith (· ^^^ ·) a b

/-- Bytes in groups of sixteen; the last group may be shorter. -/
def sixteens (bs : List UInt8) : List (List UInt8) :=
  match bs with
  | [] => []
  | b :: rest => (b :: rest.take 15) :: sixteens (rest.drop 15)
termination_by bs.length
decreasing_by simp only [List.length_drop, List.length_cons]; omega

/-- Add the keystream to groups of bytes, the first group with counter `n`. -/
def streamGroups (keys : List Block) (nonce : List UInt8) : Nat → List (List UInt8) → List UInt8
  | _, [] => []
  | n, g :: rest =>
    addBytes g (encipher keys (counterBlock nonce n)).bytes ++ streamGroups keys nonce (n + 1) rest

/-- Bytes with the keystream added; what this does, doing it again undoes. -/
def addKeystream (keys : List Block) (nonce bytes : List UInt8) : List UInt8 :=
  streamGroups keys nonce 2 (sixteens bytes)

/-! ## §2. The tag. -/

/-- The number whose bits, from the highest on, are those of the bytes. -/
def bitsOf (bytes : List UInt8) : BitVec 128 :=
  BitVec.ofNat 128 (bytes.foldl (fun n b => 256 * n + b.toNat) 0)

/-- The low end of the polynomial x¹²⁸ + x⁷ + x² + x + 1, lowest power first. -/
def reduction : BitVec 128 := 0xe1000000000000000000000000000000

/-- The product in the field with 2¹²⁸ elements, whose lowest power is the highest bit; `n` bits
of the first factor are left. -/
def productFrom : Nat → BitVec 128 → BitVec 128 → BitVec 128
  | 0, _, _ => 0
  | n + 1, x, v =>
    (if x.msb then v else 0)
      ^^^ productFrom n (x <<< 1) (if v.getLsbD 0 then (v >>> 1) ^^^ reduction else v >>> 1)

/-- The product in the field with 2¹²⁸ elements. -/
def product (x y : BitVec 128) : BitVec 128 := productFrom 128 x y

/-- A group of bytes with zeros after it. -/
def padded (g : List UInt8) : BitVec 128 := bitsOf (g ++ List.replicate (16 - g.length) 0)

/-- The polynomial over groups of bytes and their length in bits. -/
def digest (h : BitVec 128) (bytes : List UInt8) : BitVec 128 :=
  let body := (sixteens bytes).foldl (fun y g => product (y ^^^ padded g) h) 0
  product (body ^^^ BitVec.ofNat 128 (8 * bytes.length)) h

/-- The sixteen bytes of a number of 128 bits. -/
def bytesOfBits (x : BitVec 128) : List UInt8 :=
  (List.range 16).map fun i => UInt8.ofNat (x.toNat / Nat.pow 256 (15 - i))

/-- The tag of encrypted bytes. -/
def tag (keys : List Block) (nonce bytes : List UInt8) : List UInt8 :=
  let h := bitsOf (encipher keys (.ofBytes [])).bytes
  addBytes (bytesOfBits (digest h bytes)) (encipher keys (counterBlock nonce 1)).bytes

/-! ## §3. Sealing and opening. -/

/-- The number of bytes of a tag. -/
def tagLength : Nat := 16

/-- **Encrypted bytes and their tag.** -/
def sealBytes (key nonce bytes : List UInt8) : List UInt8 :=
  let keys := roundKeys key
  let body := addKeystream keys nonce bytes
  body ++ tag keys nonce body

/-- **The bytes that were sealed,** unless the tag says that something was changed. -/
def openBytes? (key nonce sealed_ : List UInt8) : Option (List UInt8) :=
  if sealed_.length < tagLength then none
  else
    let keys := roundKeys key
    let body := sealed_.take (sealed_.length - tagLength)
    let given := sealed_.drop (sealed_.length - tagLength)
    if given = tag keys nonce body then some (addKeystream keys nonce body) else none

end SuiteRunner.Cipher

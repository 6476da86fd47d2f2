import SuiteRunner.Cipher.Field

/-!
  SuiteRunner.Cipher.Block
  ────────────────────────────────
  **THE BLOCK CIPHER WITH KEYS OF 256 BITS.**

  A block has four columns of four bytes.  Each round substitutes the bytes, shifts the rows, mixes
  the columns and adds a round key; the last of the fourteen rounds does not mix.  The round keys
  are blocks, made two at a time from the two before them.
-/

namespace SuiteRunner.Cipher

/-! ## §1. Columns and blocks. -/

/-- Four bytes. -/
structure Column where
  b0 : UInt8
  b1 : UInt8
  b2 : UInt8
  b3 : UInt8
  deriving DecidableEq, Repr, Inhabited

/-- Four columns. -/
structure Block where
  c0 : Column
  c1 : Column
  c2 : Column
  c3 : Column
  deriving DecidableEq, Repr, Inhabited

namespace Column

/-- The sum of two columns. -/
def add (x y : Column) : Column :=
  ⟨x.b0 ^^^ y.b0, x.b1 ^^^ y.b1, x.b2 ^^^ y.b2, x.b3 ^^^ y.b3⟩

/-- The substitution of every byte. -/
def substitute (x : Column) : Column :=
  ⟨Cipher.substitute x.b0, Cipher.substitute x.b1, Cipher.substitute x.b2, Cipher.substitute x.b3⟩

/-- The bytes moved up by one, the first one to the end. -/
def turn (x : Column) : Column := ⟨x.b1, x.b2, x.b3, x.b0⟩

/-- One row of the mixing matrix applied to four bytes. -/
def mixRow (a b c d : UInt8) : UInt8 := double a ^^^ (double b ^^^ b) ^^^ c ^^^ d

/-- The mixing matrix applied to a column. -/
def mix (x : Column) : Column :=
  ⟨mixRow x.b0 x.b1 x.b2 x.b3, mixRow x.b1 x.b2 x.b3 x.b0, mixRow x.b2 x.b3 x.b0 x.b1,
    mixRow x.b3 x.b0 x.b1 x.b2⟩

/-- The bytes of a column. -/
def bytes (x : Column) : List UInt8 := [x.b0, x.b1, x.b2, x.b3]

end Column

namespace Block

/-- The sum of two blocks. -/
def add (x y : Block) : Block := ⟨x.c0.add y.c0, x.c1.add y.c1, x.c2.add y.c2, x.c3.add y.c3⟩

/-- The substitution of every byte. -/
def substitute (x : Block) : Block :=
  ⟨x.c0.substitute, x.c1.substitute, x.c2.substitute, x.c3.substitute⟩

/-- Each row moved to the left by its number. -/
def shiftRows (x : Block) : Block :=
  ⟨⟨x.c0.b0, x.c1.b1, x.c2.b2, x.c3.b3⟩, ⟨x.c1.b0, x.c2.b1, x.c3.b2, x.c0.b3⟩,
    ⟨x.c2.b0, x.c3.b1, x.c0.b2, x.c1.b3⟩, ⟨x.c3.b0, x.c0.b1, x.c1.b2, x.c2.b3⟩⟩

/-- The mixing of every column. -/
def mix (x : Block) : Block := ⟨x.c0.mix, x.c1.mix, x.c2.mix, x.c3.mix⟩

/-- The bytes of a block. -/
def bytes (x : Block) : List UInt8 := x.c0.bytes ++ x.c1.bytes ++ x.c2.bytes ++ x.c3.bytes

/-- The block of the first sixteen bytes of a list; missing bytes are zero. -/
def ofBytes (bs : List UInt8) : Block :=
  let column (i : Nat) : Column :=
    ⟨bs.getD i 0, bs.getD (i + 1) 0, bs.getD (i + 2) 0, bs.getD (i + 3) 0⟩
  ⟨column 0, column 4, column 8, column 12⟩

end Block

/-! ## §2. Round keys. -/

/-- A block of the key schedule made from an older one: its first column takes in `first`, every
other column the new one before it. -/
def chained (old : Block) (first : Column) : Block :=
  let c0 := old.c0.add first
  let c1 := old.c1.add c0
  let c2 := old.c2.add c1
  ⟨c0, c1, c2, old.c3.add c2⟩

/-- The round keys from two blocks on, in pairs; `mark` is the constant of the next pair. -/
def roundKeysFrom : Nat → UInt8 → Block → Block → List Block
  | 0, _, _, _ => []
  | n + 1, mark, a, b =>
    let a' := chained a ((b.c3.turn.substitute).add ⟨mark, 0, 0, 0⟩)
    let b' := chained b a'.c3.substitute
    a :: b :: roundKeysFrom n (double mark) a' b'

/-- The fifteen round keys of a key of thirty-two bytes. -/
def roundKeys (key : List UInt8) : List Block :=
  (roundKeysFrom 8 1 (.ofBytes key) (.ofBytes (key.drop 16))).take 15

/-! ## §3. Rounds. -/

/-- The rounds for the keys that are left. -/
def rounds (state : Block) : List Block → Block
  | [] => state
  | [last] => state.substitute.shiftRows.add last
  | k :: rest => rounds (state.substitute.shiftRows.mix.add k) rest

/-- **The cipher on one block.** -/
def encipher (keys : List Block) (x : Block) : Block :=
  match keys with
  | [] => x
  | k :: rest => rounds (x.add k) rest

end SuiteRunner.Cipher

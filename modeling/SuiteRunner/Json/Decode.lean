import SuiteRunner.Json.Reading
import SuiteRunner.Number.Shortest
import SuiteRunner.Text.Escaped
import SuiteRunner.Text.SortedMap

/-!
  SuiteRunner.Json.Decode
  ────────────────────────────────
  **FROM DOCUMENTS TO TYPED VALUES.**

  A decoder walks a `Reading` in the order of the text and stops at the first fault, be it one of
  form or one of type.  Records accept objects (members in any order, unknown ones skipped) and
  also lists that give the fields in order.  What a decoder says about a fault depends a little on
  where the document comes from, which is its `Origin`: a text, a value at hand, or a part that
  was set aside while the tag of a tagged record was looked for.
-/

namespace SuiteRunner

/-! ## §1. Faults. -/

/-- Why a document is not a value of a type. -/
inductive DecodeError where
  | form (e : SyntaxError)
  | invalidType (found expected : String)
  | invalidValue (found expected : String)
  | invalidLength (n : Nat) (expected : String)
  | missingField (name : String)
  | duplicateField (name : String)
  | unknownVariant (name : String) (known : List String)
  | noVariant (type : String)
  deriving DecidableEq, Repr

/-- A name in back quotes. -/
def ticked (s : String) : String := "`" ++ s ++ "`"

/-- The choice between names. -/
def oneOf : List String → String
  | [a] => ticked a
  | [a, b] => ticked a ++ " or " ++ ticked b
  | names => "one of " ++ ", ".intercalate (names.map ticked)

/-- The text of a fault. -/
def DecodeError.message : DecodeError → String
  | .form e => e.message
  | .invalidType f e => "invalid type: " ++ f ++ ", expected " ++ e
  | .invalidValue f e => "invalid value: " ++ f ++ ", expected " ++ e
  | .invalidLength n e => "invalid length " ++ toString n ++ ", expected " ++ e
  | .missingField n => "missing field " ++ ticked n
  | .duplicateField n => "duplicate field " ++ ticked n
  | .unknownVariant n [] => "unknown variant " ++ ticked n ++ ", there are no variants"
  | .unknownVariant n known => "unknown variant " ++ ticked n ++ ", expected " ++ oneOf known
  | .noVariant t => "data did not match any variant of untagged enum " ++ t

namespace Decode

/-! ## §2. Decoders. -/

/-- Where a document comes from. -/
inductive Origin where
  | text
  | value
  | setAside
  deriving DecidableEq, Repr

/-- What a decoder knows about its place: the origin of the document, and how many lists and
objects may still be opened, if there is a limit. -/
structure Place where
  origin : Origin
  depth : Option Nat

/-- A decoder of a type. -/
abbrev Decoder (α : Type) := Place → Reading → Except DecodeError α

/-- A fault of form as a decoder meets it. -/
def formed {α : Type} : Except SyntaxError α → Except DecodeError α
  | .ok a => .ok a
  | .error e => .error (.form e)

/-- One level of nesting down. -/
def Place.down (p : Place) : Except DecodeError Place :=
  (formed (Reading.descend p.depth)).map fun d => { p with depth := d }

/-- What was found, in words.  A fault in a number or a string wins over its type. -/
def foundWords : Reading → Except DecodeError String
  | .null => .ok "null"
  | .bool b => .ok ("boolean " ++ ticked (if b then "true" else "false"))
  | .num n => formed n >>= fun n =>
    match n with
    | .int i => .ok ("integer " ++ ticked (toString i))
    | .float x => .ok ("floating point " ++ ticked x.documentText)
  | .str s => (formed s).map fun s => "string " ++ Text.literal s
  | .arr _ _ => .ok "sequence"
  | .obj _ _ => .ok "map"
  | .broken stop => .error (.form stop.wanted)

/-- Refuse what was found. -/
def mismatch {α : Type} (expected : String) (r : Reading) : Except DecodeError α :=
  foundWords r >>= fun f => .error (.invalidType f expected)

/-- A text. -/
def text : Decoder String := fun _ r =>
  match r with
  | .str s => formed s
  | r => mismatch "a string" r

/-- A truth value. -/
def boolean : Decoder Bool := fun _ r =>
  match r with
  | .bool b => .ok b
  | r => mismatch "a boolean" r

/-- An integer between two bounds, by the name of its type. -/
def integer (lo hi : Int) (type : String) : Decoder Int := fun _ r =>
  match r with
  | .num (.ok (.int n)) =>
    if lo ≤ n ∧ n ≤ hi then .ok n
    else .error (.invalidValue ("integer " ++ ticked (toString n)) type)
  | r => mismatch type r

/-- A signed integer of 64 bits. -/
def int64 : Decoder Int := integer (-0x8000000000000000) 0x7fffffffffffffff "i64"

/-- A natural number of 32 bits. -/
def nat32 : Decoder Nat := fun p r => (integer 0 0xffffffff "u32" p r).map Int.toNat

/-- A natural number of 64 bits. -/
def nat64 : Decoder Nat := fun p r => (integer 0 0xffffffffffffffff "u64" p r).map Int.toNat

/-- A natural number that counts things. -/
def size : Decoder Nat := fun p r => (integer 0 0xffffffffffffffff "usize" p r).map Int.toNat

/-- Any document. -/
def json : Decoder Json := fun p r => formed (r.toJson p.depth)

/-- A value that may be null. -/
def optional {α : Type} (d : Decoder α) : Decoder (Option α) := fun p r =>
  match r with
  | .null => .ok none
  | r => (d p r).map some

/-- The items of a list, each by one decoder. -/
def items {α : Type} (d : Decoder α) (p : Place) : List Reading → Except DecodeError (List α)
  | [] => .ok []
  | r :: rest => do
    let a ← d p r
    let as_ ← items d p rest
    return a :: as_

/-- A list. -/
def list {α : Type} (d : Decoder α) : Decoder (List α) := fun p r =>
  match r with
  | .arr rs ending => do
    let xs ← items d (← p.down) rs
    formed ending.check
    return xs
  | r => mismatch "a sequence" r

/-- The texts of the members of an object. -/
def textMembers (p : Place) :
    TextMap → List (Except SyntaxError String × Reading) → Except DecodeError TextMap
  | m, [] => .ok m
  | m, (key, r) :: rest => do
    let k ← formed key
    let v ← text p r
    textMembers p (m.insert k v) rest

/-- Texts under keys. -/
def textMap : Decoder TextMap := fun p r =>
  match r with
  | .obj ms ending => do
    let m ← textMembers (← p.down) .empty ms
    formed ending.check
    return m
  | r => mismatch "a map" r

/-- Documents under keys, in the order in which they were written. -/
def jsonMap : Decoder (List (String × Json)) := fun p r =>
  match r with
  | .obj ms ending => do
    let v ← json p (.obj ms ending)
    return (v.members?.getD [])
  | r => mismatch "a map" r

/-! ## §3. Records. -/

/-- A field of a record under construction. -/
structure RecordField (σ : Type) where
  /-- The key of the field. -/
  name : String
  /-- Whether an object without the field is refused. -/
  required : Bool
  /-- Read the field into the record. -/
  read : Place → Reading → σ → Except DecodeError σ

/-- A field that must be there. -/
def must {σ α : Type} (name : String) (d : Decoder α) (put : α → σ → σ) : RecordField σ :=
  ⟨name, true, fun p r s => (d p r).map fun a => put a s⟩

/-- A field that keeps its first value when it is absent. -/
def may {σ α : Type} (name : String) (d : Decoder α) (put : α → σ → σ) : RecordField σ :=
  ⟨name, false, fun p r s => (d p r).map fun a => put a s⟩

/-- A part of a document that no field takes. -/
def skip (p : Place) (r : Reading) : Except DecodeError Unit :=
  match p.origin with
  | .text => match r.skipFault? with
    | some e => .error (.form e)
    | none => .ok ()
  | _ => .ok ()

/-- Read members into a record; the names of the fields that were met are collected. -/
def fieldsOfMembers {σ : Type} (p : Place) (fields : List (RecordField σ)) :
    List (Except SyntaxError String × Reading) → List String → σ →
      Except DecodeError (List String × σ)
  | [], seen, s => .ok (seen, s)
  | (key, r) :: rest, seen, s => do
    let k ← formed key
    match fields.find? (fun f => f.name == k) with
    | none =>
      skip p r
      fieldsOfMembers p fields rest seen s
    | some f =>
      if seen.contains k then .error (.duplicateField k)
      else
        let s ← f.read p r s
        fieldsOfMembers p fields rest (k :: seen) s

/-- The count of elements, in words. -/
def elements (n : Nat) : String := toString n ++ (if n = 1 then " element" else " elements")

/-- Read items into the fields in order; what is left of the items is returned. -/
def fieldsOfItems {σ : Type} (p : Place) (ending : Ending) (whole : String) :
    Nat → List (RecordField σ) → List Reading → σ → Except DecodeError (List Reading × σ)
  | _, [], rest, s => .ok (rest, s)
  | i, f :: fs, r :: rest, s => do
    let s ← f.read p r s
    fieldsOfItems p ending whole (i + 1) fs rest s
  | i, f :: fs, [], s => do
    formed ending.check
    if f.required then .error (.invalidLength i whole)
    else fieldsOfItems p ending whole (i + 1) fs [] s

/-- The end of a list of which all fields were read. -/
def closeItems (p : Place) (count total : Nat) (rest : List Reading) (ending : Ending) :
    Except DecodeError Unit :=
  match p.origin with
  | .text =>
    if !rest.isEmpty then .error (.form .trailingCharacters)
    else match ending with
      | .closed => .ok ()
      | .cut stop =>
        match stop.wanted with
        | .eofList => .error (.form .eofList)
        | .trailingComma => .error (.form .trailingComma)
        | _ => .error (.form .trailingCharacters)
  | .value =>
    if rest.isEmpty then .ok () else .error (.invalidLength total "fewer elements in array")
  | .setAside =>
    if rest.isEmpty then .ok ()
    else .error (.invalidLength total (elements count ++ " in sequence"))

/-- The first required field that was not met. -/
def missing? {σ : Type} (fields : List (RecordField σ)) (seen : List String) : Option String :=
  (fields.find? fun f => f.required && !seen.contains f.name).map RecordField.name

/-- The members of an object as a record. -/
def recordOfMembers {σ : Type} (fields : List (RecordField σ)) (start : σ) (p : Place)
    (ms : List (Except SyntaxError String × Reading)) (ending : Ending) : Except DecodeError σ := do
  let (seen, s) ← fieldsOfMembers p fields ms [] start
  formed ending.check
  match missing? fields seen with
  | some name => .error (.missingField name)
  | none => .ok s

/-- The items of a list as a record; `whole` names the record with its size. -/
def recordOfItems {σ : Type} (whole : String) (fields : List (RecordField σ)) (start : σ) (p : Place)
    (rs : List Reading) (ending : Ending) : Except DecodeError σ := do
  let (rest, s) ← fieldsOfItems p ending whole 0 fields rs start
  closeItems p fields.length rs.length rest ending
  return s

/-- A record, by the words for its type. -/
def record {σ : Type} (name : String) (fields : List (RecordField σ)) (start : σ) : Decoder σ :=
  fun p r =>
    match r with
    | .obj ms ending => do recordOfMembers fields start (← p.down) ms ending
    | .arr rs ending => do
      recordOfItems (name ++ " with " ++ elements fields.length) fields start (← p.down) rs ending
    | r => mismatch name r

/-! ## §4. Names from a closed list. -/

/-- A word of a list, by the values that the words stand for. -/
def wordValue {α : Type} (known : List String) (values : List (String × α)) (s : String) :
    Except DecodeError α :=
  match values.lookup s with
  | some a => .ok a
  | none => .error (.unknownVariant s known)

/-- The value of a word that stands alone in an object must be null. -/
def onlyNull (r : Reading) : Except DecodeError Unit :=
  match r with
  | .null => .ok ()
  | r => mismatch "unit" r

/-- A word of a list, or an object with that word as its only key and null under it. -/
def choice {α : Type} (known : List String) (values : List (String × α)) : Decoder α := fun p r =>
  match p.origin, r with
  | _, .str s => formed s >>= wordValue known values
  | .text, .obj ms ending => do
    let p ← p.down
    match ms with
    | [] => match ending with
      | .cut stop => .error (.form (if stop.wanted = .eofObject then .eofValue else .expectedValue))
      | .closed => .error (.form .expectedValue)
    | (key, v) :: rest => do
      let a ← formed key >>= wordValue known values
      let _ := p
      onlyNull v
      if !rest.isEmpty then .error (.form .expectedValue)
      else match ending with
        | .closed => .ok a
        | .cut stop =>
          .error (.form (if stop.wanted = .eofObject then .eofObject else .expectedValue))
  | .text, .broken stop => .error (.form stop.wanted)
  | .text, _ => .error (.form .expectedValue)
  | _, .obj [(key, v)] _ => do
    let a ← formed key >>= wordValue known values
    onlyNull v
    return a
  | _, .obj _ _ => .error (.invalidValue "map" "map with a single key")
  | _, r => mismatch "string or map" r

/-! ## §5. Tagged records. -/

/-- Set a part of a document aside: all of it is read. -/
def setAside (p : Place) (r : Reading) : Except DecodeError Unit :=
  match p.origin with
  | .text => (json p r).map fun _ => ()
  | _ => .ok ()

/-- The tag of a tagged record. -/
def tagWord (known : List String) (p : Place) (r : Reading) : Except DecodeError String :=
  match p.origin, r with
  | _, .str s => do
    let s ← formed s
    if known.contains s then .ok s else .error (.unknownVariant s known)
  | .setAside, .num (.ok (.int n)) =>
    if n < 0 then mismatch "variant identifier" r
    else match known[n.toNat]? with
      | some s => .ok s
      | none =>
        .error (.invalidValue ("integer " ++ ticked (toString n))
          ("variant index 0 <= i < " ++ toString known.length))
  | _, r => mismatch "variant identifier" r

/-- The members of a tagged record without the tag, and the tag. -/
def splitTag (tag : String) (known : List String) (p : Place) :
    List (Except SyntaxError String × Reading) → Option String →
      Except DecodeError (Option String × List (Except SyntaxError String × Reading))
  | [], found => .ok (found, [])
  | (key, r) :: rest, found => do
    let k ← formed key
    if k = tag then
      if found.isSome then .error (.duplicateField tag)
      else
        let t ← tagWord known p r
        splitTag tag known p rest (some t)
    else
      setAside p r
      let (t, ms) ← splitTag tag known p rest found
      return (t, (.ok k, r) :: ms)

/-- The body of a tagged record, without the tag. -/
inductive Body where
  | members (ms : List (Except SyntaxError String × Reading))
  | items (rs : List Reading)

/-- Items that are set aside. -/
def setAsideItems (p : Place) : List Reading → Except DecodeError Unit
  | [] => .ok ()
  | r :: rest => do
    setAside p r
    setAsideItems p rest

/-- A tagged record: `decode` reads the body that belongs to a tag. -/
def tagged {α : Type} (type tag : String) (known : List String)
    (decode : String → Body → Except DecodeError α) : Decoder α := fun p r =>
  match r with
  | .obj ms ending => do
    let p ← p.down
    let (t, rest) ← splitTag tag known p ms none
    formed ending.check
    match t with
    | none => .error (.missingField tag)
    | some t => decode t (.members rest)
  | .arr rs ending => do
    let p ← p.down
    match rs with
    | [] => do
      formed ending.check
      .error (.missingField tag)
    | first :: rest => do
      let t ← tagWord known p first
      setAsideItems p rest
      formed ending.check
      decode t (.items rest)
  | r => mismatch ("internally tagged enum " ++ type) r

/-- The place of a part that was set aside. -/
def asidePlace : Place := ⟨.setAside, none⟩

/-- The body of a tagged record as a record with fields. -/
def bodyFields {σ : Type} (name : String) (fields : List (RecordField σ)) (start : σ) :
    Body → Except DecodeError σ
  | .members ms => recordOfMembers fields start asidePlace ms .closed
  | .items rs =>
    recordOfItems (name ++ " with " ++ elements fields.length) fields start asidePlace rs .closed

/-- The body of a tagged record that has no fields. -/
def bodyEmpty : Body → Except DecodeError Unit
  | .members _ => .ok ()
  | .items rs => closeItems asidePlace 0 rs.length rs .closed

/-! ## §6. Whole documents. -/

/-- Decode a value at hand. -/
def ofJson {α : Type} (d : Decoder α) (v : Json) : Except DecodeError α :=
  d ⟨.value, none⟩ (Reading.ofJson v)

/-- Decode a text. -/
def ofText {α : Type} (d : Decoder α) (s : String) : Except DecodeError α := do
  let doc := Reading.ofText s
  let a ← d ⟨.text, some Reading.depthLimit⟩ doc.root
  if doc.trailing then .error (.form .trailingCharacters) else return a

end Decode

end SuiteRunner

import SuiteRunner.Proofs.Json.Values
import SuiteRunner.Proofs.Variables.Placeholders

/-!
  SuiteRunner.Proofs.Variables.Structure
  ────────────────────────────────
  **VALUES OF VARIABLES CANNOT CHANGE THE STRUCTURE OF A DOCUMENT.**

  A text is literal if no token occurs in it, and a document if all its strings and keys are.
  Filling leaves both as they are, whatever the variables.  Of a document that takes a second
  condition: no object in it has a key twice, for filling writes members one after another.

    • `Template.Literal.injectBy` — texts,
    • `Template.literal_of_no_braces` — a text without two opening braces in a row is literal,
    • `Template.injectJsonBy_obj` — objects member by member,
    • `Json.Literal.injectJsonBy` — documents.

  A document is filled as a tree: each of its texts, strings and keys alike, is filled where it
  stands, and what the values contain is never read as a document.  So the filled document is the
  same tree with other texts.  One thing can go wrong, for an object is rebuilt member by member:
  keys that become equal fall together.  `KeysApart` says of a document that this does not happen.

    • `Json.mapTexts` — a document with each text changed by a function, and its laws,
    • `Json.shape`, `Json.texts` — what is left without the texts, and the texts in order,
    • `injectJsonBy_eq_mapTexts` — filling changes each text where it stands,
    • `literal_of_texts` — a document is literal if all its texts are,
    • `injectJson_structure` — filling in a store: shape, texts and documents without braces.
-/

namespace SuiteRunner

open Template (injectJsonBy injectItemsBy injectMembersBy)

/-! ## §1. Texts without placeholders. -/

namespace Template

/-- **A text without placeholders:** no token occurs in it. -/
def Literal (text : String) : Prop := ∀ t : Token, ¬ t.chars <:+: text.toList

/-- A text of characters alone is filled with nothing. -/
theorem fillBy_char (g : String → Option String) (cs : List Char) :
    fillBy g (cs.map Piece.char) = cs := by
  induction cs with
  | nil => rfl
  | cons c cs ih => exact congrArg (c :: ·) ih

/-- **A text without placeholders is not changed by filling.** -/
theorem Literal.injectBy {text : String} (h : Literal text) (g : String → Option String) :
    injectBy g text = text := by
  have hpieces : pieces text = text.toList.map Piece.char := piecesFrom_of_cut (.last h)
  unfold Template.injectBy
  rw [hpieces, fillBy_char, String.ofList_toList]

/-- **A text without two opening braces in a row has no placeholders.** -/
theorem literal_of_no_braces {text : String}
    (h : ¬ ['\x7b', '\x7b'] <:+: text.toList) : Literal text := by
  intro t ht
  have hopening : ['\x7b', '\x7b'] <+: t.chars := ⟨t.run ++ ['\x7d', '\x7d'], rfl⟩
  exact h (hopening.isInfix.trans ht)

end Template

/-! ## §2. Documents without placeholders. -/

namespace Template

/-- Members are filled one by one, in their keys and their values. -/
theorem injectMembersBy_eq_map (g : String → Option String) (ms : List (String × Json)) :
    injectMembersBy g ms = ms.map fun m => (injectBy g m.1, injectJsonBy g m.2) := by
  induction ms with
  | nil => rfl
  | cons m rest ih => exact congrArg (_ :: ·) ih

/-- **An object is filled member by member,** if no two of its keys become equal. -/
theorem injectJsonBy_obj {g : String → Option String} {ms : List (String × Json)}
    (h : (ms.map fun m => injectBy g m.1).Nodup) :
    injectJsonBy g (.obj ms) = .obj (injectMembersBy g ms) := by
  have hkeys : (injectMembersBy g ms).map Prod.fst = ms.map fun m => injectBy g m.1 := by
    rw [injectMembersBy_eq_map, List.map_map]
    rfl
  exact Json.ofMembers_of_nodup (hkeys ▸ h)

end Template

namespace Json

mutual
/-- **A document without placeholders** in its strings and keys. -/
def Literal : Json → Prop
  | .str t => Template.Literal t
  | .arr xs => LiteralItems xs
  | .obj ms => LiteralMembers ms
  | _ => True

/-- All items are without placeholders. -/
def LiteralItems : List Json → Prop
  | [] => True
  | x :: rest => x.Literal ∧ LiteralItems rest

/-- All keys and values of members are without placeholders. -/
def LiteralMembers : List (String × Json) → Prop
  | [] => True
  | (k, v) :: rest => Template.Literal k ∧ v.Literal ∧ LiteralMembers rest
end

mutual
/-- **A document without placeholders is filled with nothing.** -/
theorem Literal.injectJsonBy (g : String → Option String) :
    ∀ {v : Json}, v.Literal → v.Proper → injectJsonBy g v = v
  | .str t, h, _ => congrArg Json.str (Template.Literal.injectBy h g)
  | .arr xs, h, hv => congrArg Json.arr (LiteralItems.injectItemsBy g h hv)
  | .obj ms, h, hv => by
    show Json.ofMembers (Template.injectMembersBy g ms) = _
    rw [LiteralMembers.injectMembersBy g h hv.2, ofMembers_of_nodup hv.1]
  | .null, _, _ => rfl
  | .bool _, _, _ => rfl
  | .num _, _, _ => rfl

/-- Items without placeholders stay as they are. -/
theorem LiteralItems.injectItemsBy (g : String → Option String) :
    ∀ {xs : List Json}, LiteralItems xs → ProperItems xs → injectItemsBy g xs = xs
  | [], _, _ => rfl
  | x :: rest, ⟨hx, hrest⟩, hxs => by
    show Template.injectJsonBy g x :: Template.injectItemsBy g rest = _
    rw [Literal.injectJsonBy g hx hxs.1, LiteralItems.injectItemsBy g hrest hxs.2]

theorem LiteralMembers.injectMembersBy (g : String → Option String) :
    ∀ {ms : List (String × Json)}, LiteralMembers ms → ProperMembers ms → injectMembersBy g ms = ms
  | [], _, _ => rfl
  | (k, v) :: rest, ⟨hk, hv, hrest⟩, hms => by
    show (Template.injectBy g k, Template.injectJsonBy g v) :: Template.injectMembersBy g rest = _
    rw [Template.Literal.injectBy hk, Literal.injectJsonBy g hv hms.1,
      LiteralMembers.injectMembersBy g hrest hms.2]
end

end Json

open Template (injectBy)

/-! ## §3. The texts of a document. -/

namespace Json

mutual
/-- **A document with each string and each key changed by a function.** -/
def mapTexts (f : String → String) : Json → Json
  | .str t => .str (f t)
  | .arr xs => .arr (mapItems f xs)
  | .obj ms => .obj (mapMembers f ms)
  | .null => .null
  | .bool b => .bool b
  | .num n => .num n

/-- Each item of an array. -/
def mapItems (f : String → String) : List Json → List Json
  | [] => []
  | x :: rest => x.mapTexts f :: mapItems f rest

/-- Each member of an object, its key and its value. -/
def mapMembers (f : String → String) : List (String × Json) → List (String × Json)
  | [] => []
  | (k, v) :: rest => (f k, v.mapTexts f) :: mapMembers f rest
end

mutual
/-- The strings and keys of a document in the order in which they are written. -/
def texts : Json → List String
  | .str t => [t]
  | .arr xs => itemTexts xs
  | .obj ms => memberTexts ms
  | .null => []
  | .bool _ => []
  | .num _ => []

/-- The texts of items. -/
def itemTexts : List Json → List String
  | [] => []
  | x :: rest => x.texts ++ itemTexts rest

/-- The texts of members, each key before its value. -/
def memberTexts : List (String × Json) → List String
  | [] => []
  | (k, v) :: rest => k :: (v.texts ++ memberTexts rest)
end

/-- **The structure of a document:** its nodes with their kinds and order, and its numbers, booleans
and nulls, but none of its texts. -/
def shape (v : Json) : Json := v.mapTexts fun _ => ""

mutual
/-- **In no object do two keys become equal** when each text is changed. -/
def KeysApart (f : String → String) : Json → Prop
  | .arr xs => ItemsApart f xs
  | .obj ms => (ms.map fun m => f m.1).Nodup ∧ MembersApart f ms
  | _ => True

/-- In no item do keys become equal. -/
def ItemsApart (f : String → String) : List Json → Prop
  | [] => True
  | x :: rest => x.KeysApart f ∧ ItemsApart f rest

/-- In no value of a member do keys become equal. -/
def MembersApart (f : String → String) : List (String × Json) → Prop
  | [] => True
  | (_, v) :: rest => v.KeysApart f ∧ MembersApart f rest
end

/-! ## §4. Changing texts. -/

mutual
/-- Two changes, one after the other. -/
theorem mapTexts_mapTexts (f g : String → String) :
    ∀ v : Json, (v.mapTexts f).mapTexts g = v.mapTexts fun t => g (f t)
  | .str _ | .null | .bool _ | .num _ => rfl
  | .arr xs => congrArg arr (mapItems_mapItems f g xs)
  | .obj ms => congrArg obj (mapMembers_mapMembers f g ms)

/-- Items changed twice are changed once by both functions in a row. -/
theorem mapItems_mapItems (f g : String → String) :
    ∀ xs : List Json, mapItems g (mapItems f xs) = mapItems (fun t => g (f t)) xs
  | [] => rfl
  | x :: rest => by simp only [mapItems, mapTexts_mapTexts f g x, mapItems_mapItems f g rest]

theorem mapMembers_mapMembers (f g : String → String) : ∀ ms : List (String × Json),
    mapMembers g (mapMembers f ms) = mapMembers (fun t => g (f t)) ms
  | [] => rfl
  | (k, v) :: rest => by
    simp only [mapMembers, mapTexts_mapTexts f g v, mapMembers_mapMembers f g rest]
end

/-- **Changing texts leaves the structure as it is.** -/
theorem shape_mapTexts (f : String → String) (v : Json) : (v.mapTexts f).shape = v.shape :=
  mapTexts_mapTexts f (fun _ => "") v

mutual
/-- **The texts of a changed document are the changed texts,** in their order. -/
theorem texts_mapTexts (f : String → String) : ∀ v : Json, (v.mapTexts f).texts = v.texts.map f
  | .str _ | .null | .bool _ | .num _ => rfl
  | .arr xs => itemTexts_mapItems f xs
  | .obj ms => memberTexts_mapMembers f ms

/-- The texts of changed items are the changed texts. -/
theorem itemTexts_mapItems (f : String → String) :
    ∀ xs : List Json, itemTexts (mapItems f xs) = (itemTexts xs).map f
  | [] => rfl
  | x :: rest => by
    simp only [mapItems, itemTexts, List.map_append, texts_mapTexts f x, itemTexts_mapItems f rest]

/-- The texts of changed members are the changed texts, those of keys included. -/
theorem memberTexts_mapMembers (f : String → String) :
    ∀ ms : List (String × Json), memberTexts (mapMembers f ms) = (memberTexts ms).map f
  | [] => rfl
  | (k, v) :: rest => by
    simp only [mapMembers, memberTexts, List.map_cons, List.map_append, texts_mapTexts f v,
      memberTexts_mapMembers f rest]
end

end Json

/-! ## §5. Filling. -/

open Json (mapItems mapMembers ItemsApart MembersApart)

mutual
/-- **Filling changes each text where it stands,** unless keys fall together. -/
theorem injectJsonBy_eq_mapTexts (g : String → Option String) :
    ∀ v : Json, v.KeysApart (injectBy g) → injectJsonBy g v = v.mapTexts (injectBy g)
  | .str _, _ | .null, _ | .bool _, _ | .num _, _ => rfl
  | .arr xs, h => congrArg Json.arr (injectItemsBy_eq_mapItems g xs h)
  | .obj ms, h => by
    -- the keys stay apart, so the object is rebuilt with all its members
    rw [Template.injectJsonBy_obj h.1, injectMembersBy_eq_mapMembers g ms h.2]
    rfl

/-- Filling items is changing their texts, as long as no keys become equal. -/
theorem injectItemsBy_eq_mapItems (g : String → Option String) :
    ∀ xs : List Json, ItemsApart (injectBy g) xs → injectItemsBy g xs = mapItems (injectBy g) xs
  | [], _ => rfl
  | x :: rest, h => by
    simp only [injectItemsBy, mapItems, injectJsonBy_eq_mapTexts g x h.1,
      injectItemsBy_eq_mapItems g rest h.2]

/-- Filling members is changing their texts, as long as no keys become equal. -/
theorem injectMembersBy_eq_mapMembers (g : String → Option String) :
    ∀ ms : List (String × Json), MembersApart (injectBy g) ms →
      injectMembersBy g ms = mapMembers (injectBy g) ms
  | [], _ => rfl
  | (k, v) :: rest, h => by
    simp only [injectMembersBy, mapMembers, injectJsonBy_eq_mapTexts g v h.1,
      injectMembersBy_eq_mapMembers g rest h.2]
end

/-! ## §6. Documents without braces. -/

namespace Json

mutual
/-- A document is literal if all its texts are. -/
theorem literal_of_texts : ∀ {v : Json}, (∀ t ∈ v.texts, Template.Literal t) → v.Literal
  | .str t, h => h t List.mem_cons_self
  | .arr _, h => literal_of_itemTexts h
  | .obj _, h => literal_of_memberTexts h
  | .null, _ | .bool _, _ | .num _, _ => trivial

theorem literal_of_itemTexts :
    ∀ {xs : List Json}, (∀ t ∈ itemTexts xs, Template.Literal t) → LiteralItems xs
  | [], _ => trivial
  | _ :: _, h => by
    obtain ⟨hx, hrest⟩ := List.forall_mem_append.mp h
    exact ⟨literal_of_texts hx, literal_of_itemTexts hrest⟩

theorem literal_of_memberTexts :
    ∀ {ms : List (String × Json)}, (∀ t ∈ memberTexts ms, Template.Literal t) → LiteralMembers ms
  | [], _ => trivial
  | (_, _) :: _, h => by
    obtain ⟨hk, hvalues⟩ := List.forall_mem_cons.mp h
    obtain ⟨hv, hrest⟩ := List.forall_mem_append.mp hvalues
    exact ⟨hk, literal_of_texts hv, literal_of_memberTexts hrest⟩
end

end Json

/-! ## §7. Filling in a store. -/

namespace Store

/-- **WHAT VARIABLES HOLD CANNOT CHANGE THE STRUCTURE OF A DOCUMENT.**  If the keys of each object
stay apart, then a filled document is the document with each text filled where it stands, in the
store as it is before the call, although look-ups change the store on the way.  So it has the same
structure, and its texts are those of the document, filled, in their order.  A document in whose
texts no two opening braces follow each other stays as it is. -/
theorem injectJson_structure (s : Store) (o : Owner) (v : Json) :
    (v.KeysApart (fun t => (s.inject o t).1) →
      (injectJson o v s).1 = v.mapTexts (fun t => (s.inject o t).1) ∧
      (injectJson o v s).1.shape = v.shape ∧
      (injectJson o v s).1.texts = v.texts.map fun t => (s.inject o t).1) ∧
    (v.Proper → (∀ t ∈ v.texts, ¬ ['\x7b', '\x7b'] <:+: t.toList) →
      (injectJson o v s).1 = v) := by
  -- look-ups change no value, so both sides read the store as it is before the call
  have hjson : (injectJson o v s).1 = injectJsonBy (s.reads o) v := (looks_injectJson o v).value s
  have htext : (fun t => (s.inject o t).1) = injectBy (s.reads o) :=
    funext fun t => (looks_inject o t).value s
  rw [htext, hjson]
  constructor
  · intro hapart
    rw [injectJsonBy_eq_mapTexts _ v hapart]
    exact ⟨rfl, Json.shape_mapTexts _ v, Json.texts_mapTexts _ v⟩
  · intro hproper hplain
    have hliteral : v.Literal :=
      Json.literal_of_texts fun t ht => Template.literal_of_no_braces (hplain t ht)
    exact hliteral.injectJsonBy (s.reads o) hproper

/-- Values that look like parts of documents, or like placeholders, stay texts; keys of their own
and braces that are not double stay as they are. -/
theorem injectJson_structure_hostile :
    let s := ((ofRegistry none).setGlobal "k" "\",\"c\":[\x7b").setGlobal "x"
      "\x7b\x7bk\x7d\x7d\"\x7d]"
    let o : Owner := ⟨"s", "c"⟩
    let v : Json := .obj [("\x7b\x7bk\x7d\x7d", .arr [Json.ofInt 1, .str "\x7b\x7bx\x7d\x7d"]),
      ("b", .obj [("a", .null), ("\x7b\x7b k \x7d\x7d!", .bool true)])]
    let plain : Json := .obj [("\x7ba\x7d", .arr [.str "\x7b \x7b k", .null])]
    v.KeysApart (fun t => (s.inject o t).1) ∧
      (injectJson o v s).1.shape = v.shape ∧
      (injectJson o v s).1.texts =
        ["\",\"c\":[\x7b", "\x7b\x7bk\x7d\x7d\"\x7d]", "b", "a", "\",\"c\":[\x7b!"] ∧
      (injectJson o plain s).1 = plain := by
  intro s o v plain
  have houter : [(s.inject o "\x7b\x7bk\x7d\x7d").1, (s.inject o "b").1].Nodup := by decide
  have hinner : [(s.inject o "a").1, (s.inject o "\x7b\x7b k \x7d\x7d!").1].Nodup := by
    decide
  have hapart : v.KeysApart fun t => (s.inject o t).1 :=
    ⟨houter, ⟨trivial, trivial, trivial⟩, ⟨hinner, trivial, trivial, trivial⟩, trivial⟩
  have hproper : plain.Proper := ⟨by decide, ⟨trivial, trivial, trivial⟩, trivial⟩
  obtain ⟨-, hshape, htexts⟩ := (injectJson_structure s o v).1 hapart
  exact ⟨hapart, hshape, htexts.trans (by decide),
    (injectJson_structure s o plain).2 hproper (by decide)⟩

end Store

end SuiteRunner

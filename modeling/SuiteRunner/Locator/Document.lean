import SuiteRunner.Json.Decode
import SuiteRunner.Locator.Basic

/-!
  SuiteRunner.Locator.Document
  ────────────────────────────────
  **LOCATORS AS DOCUMENTS.**

  Filters and chain operations are records tagged by `type`.  The decoders that may meet a
  locator inside a locator count down from the height of the document, so they end on every
  document and never run out before it does.
-/

namespace SuiteRunner

open Decode

/-! ## §1. Heights. -/

namespace Reading

mutual
/-- The number of levels of a document. -/
def height : Reading → Nat
  | .arr items _ => itemsHeight items + 1
  | .obj members _ => membersHeight members + 1
  | _ => 1

/-- The number of levels of the highest item. -/
def itemsHeight : List Reading → Nat
  | [] => 0
  | r :: rest => max r.height (itemsHeight rest)

/-- The number of levels of the highest member. -/
def membersHeight : List (Except SyntaxError String × Reading) → Nat
  | [] => 0
  | (_, r) :: rest => max r.height (membersHeight rest)
end

end Reading

/-! ## §2. Reading. -/

/-- The fields of the options. -/
def LocatorOptions.fields : List (RecordField LocatorOptions) := [
  may "name" (optional text) fun a o => { o with name := a },
  may "exact" (optional boolean) fun a o => { o with exact := a },
  may "checked" (optional boolean) fun a o => { o with checked := a },
  may "disabled" (optional boolean) fun a o => { o with disabled := a },
  may "expanded" (optional boolean) fun a o => { o with expanded := a },
  may "pressed" (optional boolean) fun a o => { o with pressed := a },
  may "selected" (optional boolean) fun a o => { o with selected := a },
  may "includeHidden" (optional boolean) fun a o => { o with includeHidden := a },
  may "level" (optional nat32) fun a o => { o with level := a },
  may "hasText" (optional text) fun a o => { o with hasText := a },
  may "hasNotText" (optional text) fun a o => { o with hasNotText := a }]

/-- Read options. -/
def LocatorOptions.decode : Decoder LocatorOptions :=
  record "struct LocatorOptions" LocatorOptions.fields {}

/-- The words for an index. -/
def LocatorIndex.words : List (String × LocatorIndex) := [("first", .first), ("last", .last)]

/-- Read an index: a position, or one of the two words. -/
def LocatorIndex.decode : Decoder LocatorIndex := fun p r => do
  setAside p r
  match int64 asidePlace r with
  | .ok n => return .position n
  | .error _ =>
    match choice (LocatorIndex.words.map Prod.fst) LocatorIndex.words asidePlace r with
    | .ok i => return i
    | .error _ => .error (.noVariant "IndexSelector")

/-- The tags of filters. -/
def LocatorFilter.tags : List String :=
  ["hasText", "hasNotText", "has", "hasNot", "visible", "hidden"]

/-- The tags of chain operations. -/
def ChainOperation.tags : List String := ["locator", "filter", "nth", "first", "last"]

/-- The fields of a locator, by the decoders for its filters and its chain. -/
def Locator.fields (filter : Decoder LocatorFilter) (chain : Decoder ChainOperation) :
    List (RecordField Locator) := [
  must "strategy" text fun a l => { l with strategy := a },
  may "value" text fun a l => { l with value := a },
  may "options" LocatorOptions.decode fun a l => { l with options := a },
  may "filter" (optional filter) fun a l => { l with filter := a },
  may "filters" (list filter) fun a l => { l with filters := a },
  may "chain" (list chain) fun a l => { l with chain := a },
  may "index" (optional LocatorIndex.decode) fun a l => { l with index := a }]

/-- A body with one field. -/
def oneField {α : Type} (type key : String) (d : Decoder α) (b : Body) : Except DecodeError α := do
  let field : RecordField (Option α) := must key d fun a _ => some a
  match ← bodyFields type [field] none b with
  | some a => return a
  | none => .error (.missingField key)

/-- The body of a filter, by the decoder for the locators in it. -/
def LocatorFilter.ofTag (locator : Decoder Locator) (tag : String) (b : Body) :
    Except DecodeError LocatorFilter :=
  let type := "struct variant FilterDefinition::"
  match tag with
  | "hasText" => (oneField (type ++ "HasText") "value" text b).map .hasText
  | "hasNotText" => (oneField (type ++ "HasNotText") "value" text b).map .hasNotText
  | "has" => (oneField (type ++ "Has") "locator" locator b).map .has
  | "hasNot" => (oneField (type ++ "HasNot") "locator" locator b).map .hasNot
  | "visible" => (bodyEmpty b).map fun _ => .visible
  | _ => (bodyEmpty b).map fun _ => .hidden

/-- The body of a chain operation, by the decoders for what may be in it. -/
def ChainOperation.ofTag (locator : Decoder Locator) (filter : Decoder LocatorFilter)
    (tag : String) (b : Body) : Except DecodeError ChainOperation :=
  let type := "struct variant ChainOperation::"
  match tag with
  | "locator" => (oneField (type ++ "Locator") "locator" locator b).map .locator
  | "filter" => (oneField (type ++ "Filter") "filter" filter b).map .filter
  | "nth" => (oneField (type ++ "Nth") "index" int64 b).map .nth
  | "first" => (bodyEmpty b).map fun _ => .first
  | _ => (bodyEmpty b).map fun _ => .last

/-- The answer of a decoder whose document is higher than it was told. -/
def tooHigh {α : Type} : Decoder α := fun _ _ => .error (.form .recursionLimit)

mutual
/-- Read a locator of at most `n` levels. -/
def Locator.decodeUpTo (n : Nat) : Decoder Locator := fun p r =>
  match n with
  | 0 => tooHigh p r
  | n + 1 =>
    record "struct LocatorDefinition"
      (Locator.fields (LocatorFilter.decodeUpTo n) (ChainOperation.decodeUpTo n)) default p r

/-- Read a filter of at most `n` levels. -/
def LocatorFilter.decodeUpTo (n : Nat) : Decoder LocatorFilter := fun p r =>
  match n with
  | 0 => tooHigh p r
  | n + 1 =>
    tagged "FilterDefinition" "type" LocatorFilter.tags
      (LocatorFilter.ofTag (Locator.decodeUpTo n)) p r

/-- Read a chain operation of at most `n` levels. -/
def ChainOperation.decodeUpTo (n : Nat) : Decoder ChainOperation := fun p r =>
  match n with
  | 0 => tooHigh p r
  | n + 1 =>
    tagged "ChainOperation" "type" ChainOperation.tags
      (ChainOperation.ofTag (Locator.decodeUpTo n) (LocatorFilter.decodeUpTo n)) p r
end

/-- Read a locator. -/
def Locator.decode : Decoder Locator := fun p r => Locator.decodeUpTo (r.height + 1) p r

/-- Read a filter. -/
def LocatorFilter.decode : Decoder LocatorFilter := fun p r =>
  LocatorFilter.decodeUpTo (r.height + 1) p r

/-- Read a chain operation. -/
def ChainOperation.decode : Decoder ChainOperation := fun p r =>
  ChainOperation.decodeUpTo (r.height + 1) p r

/-! ## §3. Writing. -/

/-- A truth value that may be missing. -/
def optionalBool : Option Bool → Json := Json.ofOption .bool

/-- A document that may be missing. -/
def optionalJson : Option Json → Json
  | none => .null
  | some v => v

/-- A text that may be missing. -/
def optionalText : Option String → Json := Json.ofOption .str

/-- The document of options. -/
def LocatorOptions.toJson (o : LocatorOptions) : Json := .obj [
  ("name", optionalText o.name), ("exact", optionalBool o.exact),
  ("checked", optionalBool o.checked), ("disabled", optionalBool o.disabled),
  ("expanded", optionalBool o.expanded), ("pressed", optionalBool o.pressed),
  ("selected", optionalBool o.selected), ("includeHidden", optionalBool o.includeHidden),
  ("level", Json.ofOption Json.ofNat o.level), ("hasText", optionalText o.hasText),
  ("hasNotText", optionalText o.hasNotText)]

/-- The document of an index. -/
def LocatorIndex.toJson : LocatorIndex → Json
  | .position n => Json.ofInt n
  | .first => .str "first"
  | .last => .str "last"

mutual
/-- The document of a locator. -/
def Locator.toJson : Locator → Json
  | ⟨strategy, value, options, filter, filters, chain, index⟩ => .obj [
    ("strategy", .str strategy), ("value", .str value), ("options", options.toJson),
    ("filter", filterOptionToJson filter), ("filters", .arr (filtersToJson filters)),
    ("chain", .arr (chainToJson chain)), ("index", Json.ofOption LocatorIndex.toJson index)]

/-- The document of a filter that may be missing. -/
def filterOptionToJson : Option LocatorFilter → Json
  | none => .null
  | some f => f.toJson

/-- The documents of filters. -/
def filtersToJson : List LocatorFilter → List Json
  | [] => []
  | f :: rest => f.toJson :: filtersToJson rest

/-- The document of a filter. -/
def LocatorFilter.toJson : LocatorFilter → Json
  | .hasText v => .obj [("type", .str "hasText"), ("value", .str v)]
  | .hasNotText v => .obj [("type", .str "hasNotText"), ("value", .str v)]
  | .has l => .obj [("type", .str "has"), ("locator", l.toJson)]
  | .hasNot l => .obj [("type", .str "hasNot"), ("locator", l.toJson)]
  | .visible => .obj [("type", .str "visible")]
  | .hidden => .obj [("type", .str "hidden")]

/-- The document of a chain operation. -/
def ChainOperation.toJson : ChainOperation → Json
  | .locator l => .obj [("type", .str "locator"), ("locator", l.toJson)]
  | .filter f => .obj [("type", .str "filter"), ("filter", f.toJson)]
  | .nth n => .obj [("type", .str "nth"), ("index", Json.ofInt n)]
  | .first => .obj [("type", .str "first")]
  | .last => .obj [("type", .str "last")]

/-- The documents of a chain. -/
def chainToJson : List ChainOperation → List Json
  | [] => []
  | op :: rest => op.toJson :: chainToJson rest
end

end SuiteRunner

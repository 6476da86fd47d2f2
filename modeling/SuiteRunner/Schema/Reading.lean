import SuiteRunner.Regex.Parser
import SuiteRunner.Schema.Basic
import SuiteRunner.Schema.Dialect

/-!
  SuiteRunner.Schema.Reading
  ────────────────────────────────
  **FROM DOCUMENTS TO SCHEMAS.**

  A document is a schema if it is a truth value or an object in which every keyword that its
  edition knows has a value of the form that it asks for; unknown keywords say nothing.  Keywords
  that describe (titles, examples, formats, …) are checked and then dropped.
-/

namespace SuiteRunner.Schema

/-- Why a document is not a schema, in words. -/
abbrev Fault := String

/-- Refuse the value of a keyword. -/
def unfit {α : Type} (key : String) : Except Fault α :=
  .error ("the value of '" ++ key ++ "' is not of the form that this keyword asks for")

/-! ## §1. Plain values. -/

/-- A natural number; a whole double will do. -/
def count? : Json → Option Nat
  | .num (.int n) => if n < 0 then none else some n.toNat
  | .num (.float x) =>
    match x.trunc? with
    | some n => if x.isWhole && 0 ≤ n then some n.toNat else none
    | none => none
  | _ => none

/-- Texts of which no two are equal. -/
def texts? (v : Json) : Option (List String) := do
  let ts ← (← v.items?).mapM Json.text?
  if ts.eraseDups.length = ts.length then some ts else none

/-- A type by its word. -/
def type? (v : Json) : Option TypeName := v.text?.bind fun t => TypeName.named.lookup t

/-- The types that a value names. -/
def types? (v : Json) : Option (List TypeName) :=
  match v with
  | .str _ => (type? v).map fun t => [t]
  | .arr items => do
    let ts ← items.mapM type?
    if ts.isEmpty || ts.eraseDups.length != ts.length then none else some ts
  | _ => none

/-- A value of the right form, or a refusal. -/
def need {α : Type} (key : String) : Option α → Except Fault α
  | some a => .ok a
  | none => unfit key

/-! ## §2. Patterns. -/

/-- The classes of characters that a backslash and a letter stand for in schemas: digits, word
characters and blanks, all of them ASCII but for the blanks. -/
def classText? : Char → Option String
  | 'd' => some "[0-9]"
  | 'D' => some "[^0-9]"
  | 'w' => some "[A-Za-z0-9_]"
  | 'W' => some "[^A-Za-z0-9_]"
  | 's' => some "[\\t\\n\\v\\f\\r \\u00a0\\ufeff\\u2029\\p\x7bZs\x7d]"
  | 'S' => some "[^\\t\\n\\v\\f\\r \\u00a0\\ufeff\\u2029\\p\x7bZs\x7d]"
  | _ => none

/-- A pattern with these classes written out. -/
def plainPattern : List Char → List Char
  | '\\' :: c :: rest =>
    match classText? c with
    | some t => t.toList ++ plainPattern rest
    | none => '\\' :: c :: plainPattern rest
  | c :: rest => c :: plainPattern rest
  | [] => []

/-- The pattern that a text is. -/
def pattern? (text : String) : Option Regex.Pattern :=
  Regex.parse? (String.ofList (plainPattern text.toList))

/-! ## §3. Keywords that only describe. -/

/-- Whether a keyword that does not decide anything has a value of the right form. -/
def describes (key : String) (v : Json) : Bool :=
  if ["$id", "$schema", "$anchor", "$dynamicAnchor", "$comment", "title", "description", "format",
      "contentEncoding", "contentMediaType"].contains key then v.kind == .string
  else if ["deprecated", "readOnly", "writeOnly", "$recursiveAnchor"].contains key then
    v.kind == .boolean
  else if key = "examples" then v.kind == .array
  else true

/-! ## §4. Schemas. -/

/-- A reader of the rules below a keyword. -/
abbrev Below := Json → Except Fault Rule

/-- A list of schemas, at least one. -/
def rulesOf (below : Below) (key : String) : Json → Except Fault (List Rule)
  | .arr (v :: vs) => (v :: vs).mapM below
  | _ => unfit key

/-- Schemas under names. -/
def namedOf (below : Below) (key : String) : Json → Except Fault (List (String × Rule))
  | .obj ms => ms.mapM fun (k, v) => (below v).map fun r => (k, r)
  | _ => unfit key

/-- Schemas under patterns. -/
def patternedOf (below : Below) (v : Json) : Except Fault (List (Regex.Pattern × Rule)) := do
  let rules ← namedOf below "patternProperties" v
  rules.mapM fun (k, r) =>
    match pattern? k with
    | some p => .ok (p, r)
    | none => unfit "patternProperties"

/-- What a member has to have along with it: other members, or a rule for the whole object. -/
def dependencyOf (below : Below) (entry : String × Json) : Except Fault Keyword :=
  match entry.2 with
  | .arr vs => (need "dependencies" (texts? (.arr vs))).map fun ns => .requiredWith [(entry.1, ns)]
  | v => (below v).map fun r => .rulesWith [(entry.1, r)]

/-- What a keyword means next to its neighbours. -/
def keywordOf (d : Dialect) (below : Below) (whole : List (String × Json)) (key : String)
    (v : Json) : Except Fault (List Keyword) :=
  match key with
  | "type" => (need key (types? v)).map fun ts => [.types ts]
  | "const" => .ok [.const v]
  | "enum" => do
    let vs ← need key v.items?
    if !d.isFrom .draft7 && (vs.isEmpty || !allDistinct vs) then unfit key else return [.enum vs]
  | "minimum" => limit (if isStrict "exclusiveMinimum" then .above else .atLeast)
  | "maximum" => limit (if isStrict "exclusiveMaximum" then .below else .atMost)
  | "exclusiveMinimum" => if d == .draft4 then flag else limit .above
  | "exclusiveMaximum" => if d == .draft4 then flag else limit .below
  | "multipleOf" =>
    match v with
    | .num n =>
      if (Binary64.zero false).less n.toDouble then .ok [.multipleOf n.toDouble] else unfit key
    | _ => unfit key
  | "minLength" => (need key (count? v)).map fun n => [.atLeast .characters n]
  | "maxLength" => (need key (count? v)).map fun n => [.atMost .characters n]
  | "minItems" => (need key (count? v)).map fun n => [.atLeast .items n]
  | "maxItems" => (need key (count? v)).map fun n => [.atMost .items n]
  | "minProperties" => (need key (count? v)).map fun n => [.atLeast .members n]
  | "maxProperties" => (need key (count? v)).map fun n => [.atMost .members n]
  | "pattern" => do
    let text ← need key v.text?
    let p ← need key (pattern? text)
    return [.pattern text p]
  | "uniqueItems" =>
    match v with
    | .bool b => .ok (if b then [.uniqueItems] else [])
    | _ => unfit key
  | "prefixItems" => (rulesOf below key v).map fun rs => [.front rs]
  | "items" =>
    match v, d with
    | .arr _, .edition2020 => unfit key
    | .arr _, _ => (rulesOf below key v).map fun rs => [.front rs]
    | _, _ => (below v).map fun r => [.items (frontLength "prefixItems") r]
  | "additionalItems" => do
    let others ← below v
    match Json.lookup? "items" whole, others with
    | some (.arr vs), .never => return [.noItemsAfter vs.length]
    | some (.arr vs), r => return [.items vs.length r]
    | _, _ => return []
  | "contains" => do
    let r ← below v
    let low := ((Json.lookup? "minContains" whole).bind count?).getD 1
    return [.contains r low ((Json.lookup? "maxContains" whole).bind count?)]
  | "minContains" => (need key (count? v)).map fun _ => []
  | "maxContains" => (need key (count? v)).map fun _ => []
  | "required" => do
    let names ← need key (texts? v)
    if d == .draft4 && names.isEmpty then unfit key else return [.required names]
  | "dependentRequired" => do
    let ms ← need key v.members?
    let deps ← ms.mapM fun (k, w) => (need key (texts? w)).map fun ns => (k, ns)
    return [.requiredWith deps]
  | "dependentSchemas" => (namedOf below key v).map fun rs => [.rulesWith rs]
  | "dependencies" => do (← need key v.members?).mapM (dependencyOf below)
  | "properties" => do
    let rs ← namedOf below key v
    return if takesAll then [] else [.members rs]
  | "patternProperties" => do
    let rs ← patternedOf below v
    return if takesAll then [] else [.memberPatterns rs]
  | "additionalProperties" => do
    let others ← below v
    match others with
    | .always => return [.allMembers [] [] false false others]
    | _ =>
      let byName := Json.lookup? "properties" whole
      let byPattern := Json.lookup? "patternProperties" whole
      let rs ← match byName with
        | some w => namedOf below "properties" w
        | none => .ok []
      let ps ← match byPattern with
        | some w => patternedOf below w
        | none => .ok []
      return [.allMembers rs ps byName.isSome byPattern.isSome others]
  | "propertyNames" => (below v).map fun r => [.memberNames r]
  | "allOf" => (rulesOf below key v).map fun rs => [.allOf rs]
  | "anyOf" => (rulesOf below key v).map fun rs => [.anyOf rs]
  | "oneOf" => (rulesOf below key v).map fun rs => [.oneOf rs]
  | "not" => (below v).map fun r => [.not v r]
  | "if" => do
    let test ← below v
    let yes ← (Json.lookup? "then" whole).mapM below
    let no ← (Json.lookup? "else" whole).mapM below
    return [.when test yes no]
  | "then" => (below v).map fun _ => []
  | "else" => (below v).map fun _ => []
  | "$defs" => (namedOf below key v).map fun _ => []
  | "definitions" => (namedOf below key v).map fun _ => []
  | "contentSchema" => (below v).map fun _ => []
  | "$ref" => (need key v.text?).map fun t => [.other t]
  | "$dynamicRef" => (need key v.text?).map fun t => [.other t]
  | "$recursiveRef" => (need key v.text?).map fun t => [.other t]
  | "unevaluatedProperties" => (below v).map fun r => [.unseenMembers r]
  | "unevaluatedItems" => (below v).map fun r => [.unseenItems r]
  | _ => if describes key v then .ok [] else unfit key
where
  /-- A truth value that another keyword looks at. -/
  flag : Except Fault (List Keyword) :=
    match v with
    | .bool _ => .ok []
    | _ => unfit key
  /-- Whether a bound is strict by a truth value next to it. -/
  isStrict (neighbour : String) : Bool :=
    d == .draft4 && Json.lookup? neighbour whole == some (.bool true)
  /-- How many items at the front have rules of their own. -/
  frontLength (neighbour : String) : Nat :=
    if d == .edition2020 then
      (((Json.lookup? neighbour whole).bind Json.items?).getD []).length
    else 0
  /-- A bound on numbers. -/
  limit (b : Bound) : Except Fault (List Keyword) :=
    match v with
    | .num n => .ok [.bound b n]
    | _ => unfit key
  /-- Whether the rule for other members takes over those for named ones. -/
  takesAll : Bool :=
    match Json.lookup? "additionalProperties" whole with
    | some (.bool false) => true
    | some (.obj _) => true
    | _ => false

/-- The keywords of an object that count: in early editions nothing stands beside an address. -/
def countedKeywords (d : Dialect) (whole : List (String × Json)) : List (String × Json) :=
  match Json.lookup? "$ref" whole with
  | some address => if d.isFrom .edition2019 then whole else [("$ref", address)]
  | none => whole

/-- The keywords of an object, in order. -/
def keywordsOf (d : Dialect) (below : Below) (whole : List (String × Json)) :
    Except Fault (List Keyword) :=
  let known := (countedKeywords d whole).filter fun (key, _) => d.knows key
  (known.mapM fun (key, v) => keywordOf d below known key v).map List.flatten

/-- **The rule that a document is;** the bound has to be more than the depth of the document. -/
def ruleOf (d : Dialect) : Nat → Json → Except Fault Rule
  | 0, _ => .error "nested too deep"
  | bound + 1, v =>
    match v with
    | .obj ms => (keywordsOf d (ruleOf d bound) ms).map .all
    | .bool b =>
      if d.isFrom .draft6 then .ok (if b then .always else .never)
      else .error "a schema is an object"
    | _ => .error "a schema is an object or a truth value"

end SuiteRunner.Schema

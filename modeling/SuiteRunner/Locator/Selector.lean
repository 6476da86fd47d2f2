import SuiteRunner.Error
import SuiteRunner.Json.Render
import SuiteRunner.Locator.Basic

/-!
  SuiteRunner.Locator.Selector
  ────────────────────────────────
  **FROM LOCATORS TO SELECTORS.**

  A selector is a text of parts with ` >> ` between them.  The parts of a locator are, in order:
  its base, the texts it must and must not have, its filters, its chain (a chained locator gives
  its own parts in place), and its index.  Each part narrows what the parts before it found.
-/

namespace SuiteRunner

/-- What stands between the parts of a selector. -/
def selectorSeparator : String := " >> "

/-- The text of a truth value. -/
def boolWord (b : Bool) : String := if b then "true" else "false"

/-! ## §1. Literals. -/

/-- A text to be matched: `s` asks for the exact text, `i` for a part in any letter case. -/
def textLiteral (text : String) (exact : Bool) : String :=
  Json.quote text ++ (if exact then "s" else "i")

/-- A character of an attribute value inside quotes. -/
def attributeChar (c : Char) : List Char :=
  if c = '\\' then ['\\', '\\'] else if c = '"' then ['\\', '"'] else [c]

/-- An attribute value to be matched. -/
def attributeLiteral (value : String) (exact : Bool) : String :=
  "\"" ++ String.ofList (value.toList.flatMap attributeChar) ++ "\"" ++ (if exact then "s" else "i")

/-! ## §2. Parts without locators in them. -/

/-- An element by an attribute. -/
def attributePart (name value : String) (exact : Bool) : String :=
  "internal:attr=[" ++ name ++ "=" ++ attributeLiteral value exact ++ "]"

/-- A text that elements must have. -/
def hasTextPart (text : String) : String := "internal:has-text=" ++ textLiteral text false

/-- A text that elements must not have. -/
def hasNotTextPart (text : String) : String := "internal:has-not-text=" ++ textLiteral text false

/-- One of the elements; the last one has position `-1`. -/
def nthPart (n : Int) : String := "nth=" ++ toString n

/-- The part of an index. -/
def LocatorIndex.part : LocatorIndex → String
  | .position n => nthPart n
  | .first => nthPart 0
  | .last => nthPart (-1)

/-- A flag of a role, if it is given. -/
def flagText (name : String) : Option Bool → String
  | none => ""
  | some b => "[" ++ name ++ "=" ++ boolWord b ++ "]"

/-- An element by its role. -/
def rolePart (role : String) (o : LocatorOptions) : String :=
  "internal:role=" ++ role
    ++ flagText "checked" o.checked
    ++ flagText "disabled" o.disabled
    ++ flagText "selected" o.selected
    ++ flagText "expanded" o.expanded
    ++ flagText "include-hidden" o.includeHidden
    ++ (match o.level with
        | none => ""
        | some n => "[level=" ++ toString n ++ "]")
    ++ (match o.name with
        | none => ""
        | some name => "[name=" ++ attributeLiteral name (o.exact.getD false) ++ "]")
    ++ flagText "pressed" o.pressed

/-- The base of a selector, for the strategies that are known. -/
def basePart? (strategy value : String) (o : LocatorOptions) : Option String :=
  let exact := o.exact.getD false
  match strategy with
  | "role" => some (rolePart value o)
  | "label" => some ("internal:label=" ++ textLiteral value exact)
  | "text" => some ("internal:text=" ++ textLiteral value exact)
  | "placeholder" => some (attributePart "placeholder" value exact)
  | "altText" => some (attributePart "alt" value exact)
  | "title" => some (attributePart "title" value exact)
  | "testId" => some ("internal:testid=[data-testid=" ++ attributeLiteral value true ++ "]")
  | "css" => some ("css=" ++ value)
  | "xpath" => some ("xpath=" ++ value)
  | "locator" => some value
  | _ => none

/-- The base and the two text options, as parts. -/
def baseParts (strategy value : String) (o : LocatorOptions) : Except Failure (List String) :=
  match basePart? strategy value o with
  | none => .error (.unknownStrategy strategy)
  | some part =>
    .ok (part :: (o.hasText.map hasTextPart).toList ++ (o.hasNotText.map hasNotTextPart).toList)

/-- A selector from its parts. -/
def joinParts (parts : List String) : String := selectorSeparator.intercalate parts

/-! ## §3. Parts of a whole locator. -/

mutual
/-- The parts of the selector of a locator. -/
def Locator.parts : Locator → Except Failure (List String)
  | ⟨strategy, value, options, filter, filters, chain, index⟩ => do
    let base ← baseParts strategy value options
    let first ← filterOptionParts filter
    let narrowed ← filterListParts filters
    let chained ← chainParts chain
    return base ++ first ++ narrowed ++ chained ++ (index.map LocatorIndex.part).toList

/-- The part of a filter that may be missing. -/
def filterOptionParts : Option LocatorFilter → Except Failure (List String)
  | none => .ok []
  | some f => f.part.map fun p => [p]

/-- The parts of filters, one each. -/
def filterListParts : List LocatorFilter → Except Failure (List String)
  | [] => .ok []
  | f :: rest => do
    let p ← f.part
    let ps ← filterListParts rest
    return p :: ps

/-- The part of a filter; the selector of a nested locator stands in quotes. -/
def LocatorFilter.part : LocatorFilter → Except Failure String
  | .hasText v => .ok (hasTextPart v)
  | .hasNotText v => .ok (hasNotTextPart v)
  | .has l => l.parts.map fun ps => "internal:has=" ++ Json.quote (joinParts ps)
  | .hasNot l => l.parts.map fun ps => "internal:has-not=" ++ Json.quote (joinParts ps)
  | .visible => .ok "visible=true"
  | .hidden => .ok "visible=false"

/-- The parts of a chain operation. -/
def ChainOperation.parts : ChainOperation → Except Failure (List String)
  | .locator l => l.parts
  | .filter f => f.part.map fun p => [p]
  | .nth n => .ok [nthPart n]
  | .first => .ok [nthPart 0]
  | .last => .ok [nthPart (-1)]

/-- The parts of a chain, in order. -/
def chainParts : List ChainOperation → Except Failure (List String)
  | [] => .ok []
  | op :: rest => do
    let ps ← op.parts
    let qs ← chainParts rest
    return ps ++ qs
end

/-- **The selector of a locator.** -/
def Locator.selector (l : Locator) : Except Failure String := l.parts.map joinParts

end SuiteRunner

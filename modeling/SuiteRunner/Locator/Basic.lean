/-!
  SuiteRunner.Locator.Basic
  ────────────────────────────────
  **WHAT A LOCATOR SAYS.**

  A locator is a description of an element of a page: a strategy with a value and options, then
  filters, then a chain of operations, then an index.  Filters and chains may hold locators
  again, to any depth.
-/

namespace SuiteRunner

/-- The options of a locator. -/
structure LocatorOptions where
  name : Option String := none
  exact : Option Bool := none
  checked : Option Bool := none
  disabled : Option Bool := none
  expanded : Option Bool := none
  pressed : Option Bool := none
  selected : Option Bool := none
  includeHidden : Option Bool := none
  level : Option Nat := none
  hasText : Option String := none
  hasNotText : Option String := none
  deriving DecidableEq, Repr, Inhabited

/-- The place of one element among those that fit: a position (from the end if negative), or a
word. -/
inductive LocatorIndex where
  | position (n : Int)
  | first
  | last
  deriving DecidableEq, Repr, Inhabited

mutual
/-- A description of an element. -/
structure Locator where
  strategy : String
  value : String
  options : LocatorOptions
  /-- A single filter that stands before all others. -/
  filter : Option LocatorFilter
  filters : List LocatorFilter
  chain : List ChainOperation
  index : Option LocatorIndex

/-- A condition on elements. -/
inductive LocatorFilter where
  | hasText (value : String)
  | hasNotText (value : String)
  | has (locator : Locator)
  | hasNot (locator : Locator)
  | visible
  | hidden

/-- A step from elements to elements. -/
inductive ChainOperation where
  | locator (locator : Locator)
  | filter (filter : LocatorFilter)
  | nth (index : Int)
  | first
  | last
end

/-- A locator with nothing but a strategy and a value. -/
def Locator.plain (strategy value : String) : Locator :=
  ⟨strategy, value, {}, none, [], [], none⟩

instance : Inhabited Locator := ⟨Locator.plain "" ""⟩
instance : Inhabited LocatorFilter := ⟨.visible⟩
instance : Inhabited ChainOperation := ⟨.first⟩

end SuiteRunner

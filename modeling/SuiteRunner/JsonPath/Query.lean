import SuiteRunner.Number.Binary64

/-!
  SuiteRunner.JsonPath.Query
  ────────────────────────────────
  **WHAT A PATH SAYS.**

  A path is read into a tree.  Its left spine leads back to the root of the document, or to the
  element under test inside a filter; each node on the spine takes what the spine before it found
  and goes on from there.
-/

namespace SuiteRunner.JsonPath

/-- The operators of filters. -/
inductive Operator where
  | equal | notEqual | less | lessEq | greater | greaterEq | and_ | or_
  deriving DecidableEq, Repr

/-- A path or a part of one. -/
inductive Query where
  /-- The root of the document. -/
  | root
  /-- The element under test in a filter. -/
  | element
  /-- All children. -/
  | all
  /-- A key, or a text in a filter. -/
  | key (name : String)
  /-- Several keys in brackets. -/
  | keys (names : List String)
  /-- A position in brackets, or a number in a filter. -/
  | number (x : Binary64)
  /-- A truth value in a filter. -/
  | bool (b : Bool)
  /-- Positions from one to another, with a step. -/
  | range (start stop : Option Int) (step : Option Nat)
  /-- Several positions in brackets. -/
  | positions (ns : List Int)
  /-- What is after a single dot. -/
  | child (before part : Query)
  /-- What is after two dots; brackets may follow them at once. -/
  | descend (before : Query) (part : Option Query)
  /-- What is in brackets. -/
  | bracket (before part : Query)
  /-- A comparison or a combination in a filter. -/
  | test (op : Operator) (left right : Query)
  deriving Repr, Inhabited

end SuiteRunner.JsonPath

import SuiteRunner.Json.Value

/-!
  SuiteRunner.Schema.Dialect
  ────────────────────────────────
  **THE EDITIONS OF THE SCHEMA LANGUAGE.**

  Keywords came and went with the editions of the language.  A schema may name its edition; one
  that names none is of the latest, and one that names an unknown edition is refused.
-/

namespace SuiteRunner.Schema

/-- An edition of the schema language. -/
inductive Dialect where
  | draft4 | draft6 | draft7 | edition2019 | edition2020
  deriving DecidableEq, Repr, Inhabited

namespace Dialect

/-- The place of an edition among all editions. -/
def rank : Dialect → Nat
  | .draft4 => 0
  | .draft6 => 1
  | .draft7 => 2
  | .edition2019 => 3
  | .edition2020 => 4

/-- Whether an edition is another one or came after it. -/
def isFrom (d first : Dialect) : Bool := first.rank ≤ d.rank

/-- The names of the editions. -/
def named : List (String × Dialect) := [
  ("https://json-schema.org/draft/2020-12/schema", .edition2020),
  ("https://json-schema.org/draft/2019-09/schema", .edition2019),
  ("http://json-schema.org/draft-07/schema", .draft7),
  ("http://json-schema.org/draft-06/schema", .draft6),
  ("http://json-schema.org/draft-04/schema", .draft4)]

/-- **The edition of a schema;** number signs at the end of its name do not count. -/
def ofDocument? (v : Json) : Option Dialect :=
  match v.member? "$schema" with
  | some (.str name) =>
    named.lookup (String.ofList (name.toList.reverse.dropWhile (· == '#')).reverse)
  | _ => some .edition2020

/-- The editions with which keywords came that were not there from the start. -/
def arrivals : List (String × Dialect) := [
  ("const", .draft6), ("contains", .draft6), ("propertyNames", .draft6), ("$id", .draft6),
  ("examples", .draft6), ("if", .draft7), ("then", .draft7), ("else", .draft7),
  ("$comment", .draft7), ("readOnly", .draft7), ("writeOnly", .draft7),
  ("contentEncoding", .draft7), ("contentMediaType", .draft7), ("dependentRequired", .edition2019),
  ("dependentSchemas", .edition2019), ("unevaluatedProperties", .edition2019),
  ("unevaluatedItems", .edition2019), ("minContains", .edition2019),
  ("maxContains", .edition2019), ("$defs", .edition2019), ("$anchor", .edition2019),
  ("deprecated", .edition2019), ("contentSchema", .edition2019),
  ("$recursiveRef", .edition2019), ("$recursiveAnchor", .edition2019),
  ("prefixItems", .edition2020), ("$dynamicRef", .edition2020), ("$dynamicAnchor", .edition2020)]

/-- The last editions of keywords that went. -/
def departures : List (String × Dialect) := [("additionalItems", .edition2019),
  ("$recursiveRef", .edition2019), ("$recursiveAnchor", .edition2019)]

/-- Whether a keyword is known in an edition. -/
def knows (d : Dialect) (key : String) : Bool :=
  (arrivals.lookup key).all (d.isFrom ·) && (departures.lookup key).all (·.isFrom d)

/-- The keyword for the identifier of a schema. -/
def idKeyword (d : Dialect) : String := if d == .draft4 then "id" else "$id"

end Dialect

end SuiteRunner.Schema

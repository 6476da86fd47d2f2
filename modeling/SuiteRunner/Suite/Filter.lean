import SuiteRunner.Suite.Basic
import SuiteRunner.Text.Blank
import SuiteRunner.Text.LetterCase
import SuiteRunner.Text.Split

/-!
  SuiteRunner.Suite.Filter
  ────────────────────────────────
  **CHOOSING SUITES BY WHAT THEY SAY OF THEMSELVES.**

  `applicationName` asks for a part of the application's name in any letter case and `testType`
  for the kind of the suite.  Any other key is the key of tags: its value lists terms with commas
  between them, where `term` asks for a tag with that value and `!term` forbids it.  A suite is
  chosen if it satisfies every filter.
-/

namespace SuiteRunner

/-- What is asked of suites, by key. -/
abbrev SuiteFilters := TextMap

namespace Suite

/-- Whether a suite has a tag. -/
def hasTag (s : Suite) (key value : String) : Bool := s.tagPairs.any fun p => p.1 == key && p.2 == value

/-- The terms of the value of a tag filter. -/
def filterTerms (value : String) : List String :=
  ((Text.split "," value).map Text.trim).filter fun t => !t.isEmpty

/-- Whether a suite satisfies one term. -/
def satisfiesTerm (s : Suite) (key term : String) : Bool :=
  match Text.dropFront? term "!" with
  | some forbidden => !s.hasTag key (Text.trim forbidden)
  | none => s.hasTag key term

/-- Whether a suite satisfies one filter. -/
def satisfies (s : Suite) (key value : String) : Bool :=
  if key = "applicationName" then
    Text.contains (LetterCase.toLower s.application) (LetterCase.toLower value)
  else if key = "testType" then s.kind.word == Text.trim value
  else (filterTerms value).all (s.satisfiesTerm key)

/-- **Whether a suite satisfies every filter.** -/
def passes (s : Suite) (filters : SuiteFilters) : Bool :=
  filters.entries.all fun (k, v) => s.satisfies k v

end Suite

/-- The key and the value of a filter argument. -/
def filterArgument (arg : String) : Except String (String × String) :=
  match Text.splitOnce? '=' arg with
  | some (k, v) =>
    if (Text.trim k).isEmpty then .error (refusal arg) else .ok (Text.trim k, Text.trim v)
  | none => .error (refusal arg)
where
  /-- Why an argument is refused. -/
  refusal (arg : String) : String := "invalid filter '" ++ arg ++ "', expected key=value"

/-- The pairs of filter arguments, up to the first that is refused. -/
def filterPairs : List String → Except String (List (String × String))
  | [] => .ok []
  | arg :: rest => do
    let p ← filterArgument arg
    let ps ← filterPairs rest
    return p :: ps

/-- The filters that arguments of the form `key=value` give; of one key the last value counts. -/
def filtersOfArguments (args : List String) : Except String SuiteFilters :=
  (filterPairs args).map TextMap.ofList

end SuiteRunner

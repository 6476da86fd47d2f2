import SuiteRunner.Json.Value
import SuiteRunner.Number.Reading
import SuiteRunner.Text.Split

/-!
  SuiteRunner.Custom.ResultPath
  ────────────────────────────────
  **PARTS OF A RESULT, BY A DOTTED PATH.**

  Each segment of a path goes one level down: under a key of an object, or to a position of an
  array.  Empty segments say nothing.
-/

namespace SuiteRunner

/-- The segments of a dotted path. -/
def pathSegments (path : String) : List String := (Text.split "." path).filter fun s => !s.isEmpty

/-- One level down. -/
def childAt? (v : Json) (segment : String) : Option Json :=
  match v with
  | .arr items => (natOfText? 0xffffffffffffffff segment).bind fun i => items[i]?
  | .obj members => Json.lookup? segment members
  | _ => none

/-- The part below some segments. -/
def descendantAt? (v : Json) (segments : List String) : Option Json :=
  segments.foldlM childAt? v

/-- **The part of a result under a dotted path.** -/
def resultAt? (v : Json) (path : String) : Option Json := descendantAt? v (pathSegments path)

end SuiteRunner

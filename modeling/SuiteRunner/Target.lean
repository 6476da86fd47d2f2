import SuiteRunner.Error
import SuiteRunner.Number.Reading
import SuiteRunner.Text.Blank
import SuiteRunner.Text.Split

/-!
  SuiteRunner.Target
  ────────────────────────────────
  **ADDRESSES OF WHAT IS TO RUN.**

  An address has one to three levels with ` > ` between them: a suite, a test case in it, a data
  item of that case.  A level is a key and a name with a colon between them; blanks around either
  do not count.  The key of the third level is the position of the item.
-/

namespace SuiteRunner

/-- What is to run: a suite, one of its cases, or one data item of a case. -/
inductive Target where
  | suite (suiteId suiteName : String)
  | testCase (suiteId suiteName caseId caseName : String)
  | dataItem (suiteId suiteName caseId caseName : String) (index : Nat) (dataName : String)
  deriving DecidableEq, Repr, Inhabited

namespace Target

/-- What stands between the levels of an address. -/
def levelSeparator : String := " > "

/-- The greatest position of a data item. -/
def indexTop : Nat := 0xffffffffffffffff

/-- The key and the name of a level. -/
def level? (piece : List Char) : Option (String × String) :=
  (Text.splitOnceChars? ':' (Text.trimChars piece)).map fun (key, name) =>
    (String.ofList (Text.trimChars key), String.ofList (Text.trimChars name))

/-- The levels of an address, if each of them has a colon. -/
def levels? : List (List Char) → Option (List (String × String))
  | [] => some []
  | piece :: rest => do
    let l ← level? piece
    let ls ← levels? rest
    return l :: ls

/-- The target of the levels of an address. -/
def ofLevels? : List (String × String) → Option Target
  | [(sid, sname)] => some (.suite sid sname)
  | [(sid, sname), (cid, cname)] => some (.testCase sid sname cid cname)
  | [(sid, sname), (cid, cname), (key, dname)] =>
    (natOfText? indexTop key).map fun i => .dataItem sid sname cid cname i dname
  | _ => none

/-- **The target of an address.** -/
def parse (address : String) : Except Failure Target :=
  match levels? (Text.splitChars levelSeparator.toList address.toList) >>= ofLevels? with
  | some t => .ok t
  | none => .error (.targetFormat address)

/-- The id of the suite. -/
def suiteId : Target → String
  | .suite i _ => i
  | .testCase i _ _ _ => i
  | .dataItem i _ _ _ _ _ => i

/-- The name of the suite. -/
def suiteName : Target → String
  | .suite _ n => n
  | .testCase _ n _ _ => n
  | .dataItem _ n _ _ _ _ => n

/-- The id and the name of the case, if the target is in one. -/
def case? : Target → Option (String × String)
  | .suite _ _ => none
  | .testCase _ _ c n => some (c, n)
  | .dataItem _ _ c n _ _ => some (c, n)

/-- The position and the name of the data item, if the target is one. -/
def data? : Target → Option (Nat × String)
  | .dataItem _ _ _ _ i n => some (i, n)
  | _ => none

/-- A short text for a target: names without keys, and the position of the item. -/
def label (t : Target) : String :=
  (if t.suiteName.isEmpty then t.suiteId else t.suiteName)
    ++ (match t.case? with
        | none => ""
        | some (_, name) => levelSeparator ++ name)
    ++ (match t.data? with
        | none => ""
        | some (i, _) => levelSeparator ++ "#" ++ toString i)

end Target

end SuiteRunner

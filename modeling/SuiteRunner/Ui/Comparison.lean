import SuiteRunner.Text.Blank
import SuiteRunner.Text.Split
import SuiteRunner.Ui.Keyword
import SuiteRunner.Ui.Operand

/-!
  SuiteRunner.Ui.Comparison
  ────────────────────────────────
  **ASSERTIONS ON TWO TEXTS.**

  These keywords compare the option `actual` with the option `expected`, or with the step's value,
  and touch no browser.
-/

namespace SuiteRunner

/-- The number that a text stands for, blanks around it allowed. -/
def numberOfCell? (text : String) : Option Binary64 := Binary64.ofText? (Text.trim text)

namespace Comparison

/-- A relation between the numbers that two texts stand for. -/
def compareNumbers (k : Keyword) (rel : Binary64 → Binary64 → Bool) (actual expected : String) :
    Except Failure Bool :=
  match numberOfCell? actual, numberOfCell? expected with
  | some a, some e => .ok (rel a e)
  | _, _ =>
    .error (.assertionFailed (k.word ++ ": '" ++ actual ++ "' and '" ++ expected
      ++ "' are not both numeric"))

/-- Whether a comparison holds. -/
def holds (k : Keyword) (actual expected : String) : Except Failure Bool :=
  match k with
  | .assertEquals => .ok (actual == expected)
  | .assertNotEquals => .ok (actual != expected)
  | .assertContains => .ok (Text.contains actual expected)
  | .assertGreaterThan => compareNumbers k (fun a e => e.less a) actual expected
  | _ => compareNumbers k (fun a e => a.less e) actual expected

/-- The verdict of a comparison. -/
def verdict (k : Keyword) (actual expected : String) : Except Failure Unit := do
  if ← holds k actual expected then return ()
  else
    .error (.assertionFailed (k.word ++ ": actual '" ++ actual ++ "', expected '" ++ expected ++ "'"))

/-- The two texts that a step compares. -/
def operands (s : Step) : Except Failure (String × String) := do
  let actual ← s.need (s.optionText? "actual")
  let expected ← s.need ((s.optionText? "expected").orElse fun _ => s.valueText?)
  return (actual, expected)

end Comparison

end SuiteRunner

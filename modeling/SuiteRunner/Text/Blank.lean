/-!
  SuiteRunner.Text.Blank
  ────────────────────────────────
  **WHITE SPACE.**

  `isBlank` is the Unicode property White_Space, and `trim` takes it off both ends of a text.
-/

namespace SuiteRunner.Text

/-- The Unicode property White_Space. -/
def isBlank (c : Char) : Bool :=
  let n := c.toNat
  (0x09 ≤ n && n ≤ 0x0d) || n == 0x20 || n == 0x85 || n == 0xa0 || n == 0x1680
    || (0x2000 ≤ n && n ≤ 0x200a) || n == 0x2028 || n == 0x2029 || n == 0x202f
    || n == 0x205f || n == 0x3000

/-- A text without the blanks at its start. -/
def trimStartChars (cs : List Char) : List Char := cs.dropWhile isBlank

/-- A text without the blanks at its end. -/
def trimEndChars (cs : List Char) : List Char := (cs.reverse.dropWhile isBlank).reverse

/-- A text without the blanks at its ends. -/
def trimChars (cs : List Char) : List Char := trimEndChars (trimStartChars cs)

/-- A string without the blanks at its ends. -/
def trim (s : String) : String := String.ofList (trimChars s.toList)

end SuiteRunner.Text

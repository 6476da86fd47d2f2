import SuiteRunner.Text.Category

/-!
  SuiteRunner.Text.Escaped
  ────────────────────────────────
  **TEXT SHOWN AS A LITERAL.**

  A literal stands in double quotes.  The quote, the backslash, tab, line feed and carriage return
  are escaped with a backslash, NUL as `\0`, and characters that cannot be seen on their own
  (controls, formats, separators other than the space, combining marks, unassigned code points)
  by their number in braces.
-/

namespace SuiteRunner.Text

/-- Characters that are shown by their number. -/
def isHidden (c : Char) : Bool :=
  let n := c.toNat
  if n < 0x7f then n < 0x20
  else
    Category.control.has n || Category.format.has n || Category.separator.has n
      || Category.privateUse.has n || Category.nonspacingMark.has n || Category.enclosingMark.has n
      || !Category.assigned.has n

/-- A character inside a literal. -/
def literalChar (c : Char) : List Char :=
  if c = '"' then ['\\', '"']
  else if c = '\\' then ['\\', '\\']
  else if c = '\n' then ['\\', 'n']
  else if c = '\r' then ['\\', 'r']
  else if c = '\t' then ['\\', 't']
  else if c.toNat = 0 then ['\\', '0']
  else if isHidden c then ['\\', 'u', '\x7b'] ++ Nat.toDigits 16 c.toNat ++ ['\x7d']
  else [c]

/-- A text as a literal. -/
def literal (s : String) : String := String.ofList ('"' :: (s.toList.flatMap literalChar ++ ['"']))

end SuiteRunner.Text

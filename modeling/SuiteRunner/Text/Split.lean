/-!
  SuiteRunner.Text.Split
  ────────────────────────────────
  **CUTTING TEXT AT A SEPARATOR.**

  All functions work on lists of characters, from the left, and the places where the separator
  stands do not overlap.  The versions on `String` convert and do nothing else.
-/

namespace SuiteRunner.Text

/-! ## §1. Lists of characters. -/

/-- The pieces between the places where `sep` stands; `skip` characters of a separator that was
already seen are dropped first, and `piece` holds the current piece backwards. -/
def splitFrom (sep : List Char) : Nat → List Char → List Char → List (List Char)
  | _, piece, [] => [piece.reverse]
  | skip + 1, piece, _ :: rest => splitFrom sep skip piece rest
  | 0, piece, c :: rest =>
    if sep.isPrefixOf (c :: rest) then piece.reverse :: splitFrom sep (sep.length - 1) [] rest
    else splitFrom sep 0 (c :: piece) rest

/-- The pieces of a text; there is always at least one. -/
def splitChars (sep cs : List Char) : List (List Char) := splitFrom sep 0 [] cs

/-- The text before and after the first `c`. -/
def splitOnceChars? (c : Char) : List Char → Option (List Char × List Char)
  | [] => none
  | d :: rest =>
    if d = c then some ([], rest) else (splitOnceChars? c rest).map fun (a, b) => (d :: a, b)

/-- Whether `part` stands somewhere in the text. -/
def occursIn (part : List Char) : List Char → Bool
  | [] => part.isEmpty
  | c :: rest => part.isPrefixOf (c :: rest) || occursIn part rest

/-- The text between the first `opening` and what follows it, if it occurs. -/
def afterFirst? (part : List Char) : List Char → Option (List Char × List Char)
  | [] => if part.isEmpty then some ([], []) else none
  | c :: rest =>
    if part.isPrefixOf (c :: rest) then some ([], (c :: rest).drop part.length)
    else (afterFirst? part rest).map fun (a, b) => (c :: a, b)

/-! ## §2. Strings. -/

/-- The pieces of a string between separators. -/
def split (sep s : String) : List String := (splitChars sep.toList s.toList).map String.ofList

/-- The string before and after the first `c`. -/
def splitOnce? (c : Char) (s : String) : Option (String × String) :=
  (splitOnceChars? c s.toList).map fun (a, b) => (String.ofList a, String.ofList b)

/-- Whether `part` stands somewhere in `s`. -/
def contains (s part : String) : Bool := occursIn part.toList s.toList

/-- Whether `s` begins with `part`. -/
def startsWith (s part : String) : Bool := part.toList.isPrefixOf s.toList

/-- Whether `s` ends with `part`. -/
def endsWith (s part : String) : Bool := part.toList.reverse.isPrefixOf s.toList.reverse

/-- What is left of `s` after `part` is taken off its front. -/
def dropFront? (s part : String) : Option String :=
  if startsWith s part then some (String.ofList (s.toList.drop part.toList.length)) else none

/-- The order of the UTF-8 encodings, which is the order of the code points. -/
def order (a b : String) : Ordering := Ord.compare a b

end SuiteRunner.Text

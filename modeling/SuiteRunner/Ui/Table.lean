import SuiteRunner.Browser.Session
import SuiteRunner.Text.LetterCase
import SuiteRunner.Ui.Comparison

/-!
  SuiteRunner.Ui.Table
  ────────────────────────────────
  **TABLES ON PAGES.**

  A table is addressed by its selector, a row by its position in the body, and a column by its
  position or by the text of its header, whatever the case of its ASCII letters.  A column is
  sorted as numbers if every cell is one, and as text in small letters otherwise.
-/

namespace SuiteRunner.Table

/-! ## §1. What is done with tables. -/

/-- A column, by its position or by the text of its header. -/
inductive Column where
  | position (n : Nat)
  | header (text : String)
  deriving DecidableEq, Repr

/-- What is done with a table. -/
inductive Use where
  | getCell (row : Nat) (column : Column)
  | clickCell (row : Nat) (column : Column)
  | assertCell (expected : String) (row : Nat) (column : Column)
  | getRowCount
  | assertRowCount (expected : Nat)
  | getColumn (column : Column)
  | findRow (wanted : String) (column : Column)
  | sortBy (column : Column) (descending : Bool)
  | filter (wanted : String) (column : Column)
  | assertSorted (column : Column) (descending : Bool)
  deriving DecidableEq, Repr

/-- The column that a step names. -/
def columnOf (s : Step) : Except Failure Column :=
  match s.option? "column" with
  | none => .error (.table "missing option 'column'")
  | some v =>
    match v.int? with
    | some n => if n < 0 then .ok (.header (valueText v)) else .ok (.position n.toNat)
    | none => .ok (.header (valueText v))

/-- The row that a step names. -/
def rowOf (s : Step) : Except Failure Nat :=
  match s.optionNumber? "row" with
  | some x => .ok (Step.count x)
  | none => .error (.table "missing option 'row'")

/-- Whether a step asks for the descending order. -/
def isDescending (s : Step) : Bool := s.optionText? "order" == some "desc"

/-- What a keyword for tables does with the operands of a step. -/
def Use.ofStep (k : Keyword) (s : Step) : Except Failure Use :=
  match k with
  | .tableGetCell => do
    let row ← rowOf s
    let column ← columnOf s
    return .getCell row column
  | .tableClickCell => do
    let row ← rowOf s
    let column ← columnOf s
    return .clickCell row column
  | .tableAssertCell => do
    let expected ← s.need s.valueText?
    let row ← rowOf s
    let column ← columnOf s
    return .assertCell expected row column
  | .tableGetRowCount => .ok .getRowCount
  | .tableAssertRowCount => do
    let x ← s.need s.valueNumber?
    return .assertRowCount (Step.count x)
  | .tableGetColumn => do
    let column ← columnOf s
    return .getColumn column
  | .tableFindRow => do
    let wanted ← s.need s.valueText?
    let column ← columnOf s
    return .findRow wanted column
  | .tableSortBy => do
    let column ← columnOf s
    return .sortBy column (isDescending s)
  | .tableFilter => do
    let wanted ← s.need s.valueText?
    let column ← columnOf s
    return .filter wanted column
  | .tableAssertSorted => do
    let column ← columnOf s
    return .assertSorted column (isDescending s)
  | other => .error (.unknownKeyword other.word)

/-! ## §2. Selectors. -/

/-- The selector of the headers. -/
def headers (table : String) : String := table ++ " >> css=thead th"

/-- The selector of one header. -/
def headerAt (table : String) (column : Nat) : String :=
  headers table ++ " >> nth=" ++ toString column

/-- The selector of the rows. -/
def rows (table : String) : String := table ++ " >> css=tbody tr"

/-- The selector of a cell. -/
def cellAt (table : String) (row column : Nat) : String :=
  rows table ++ " >> nth=" ++ toString row ++ " >> css=td >> nth=" ++ toString column

/-- The selector of the cells of a column; positions in such selectors start at one and have 64
bits. -/
def cellsOf (table : String) (column : Nat) : String :=
  rows table ++ " > td:nth-child(" ++ toString ((column + 1) % Nat.pow 2 64) ++ ")"

/-! ## §3. Sorted columns. -/

/-- Whether two cells may stand one after the other. -/
def inOrder (descending : Bool) (o : Ordering) : Bool :=
  if descending then o != .lt else o != .gt

/-- The order of numbers, in which what cannot be compared counts as equal. -/
def numberOrder (a b : Binary64) : Ordering := (a.compare? b).getD .eq

/-- A cell as text to compare. -/
def plainCell (text : String) : String := LetterCase.toLower (Text.trim text)

/-- The numbers of a column, if every cell is one. -/
def columnNumbers? (texts : List String) : Option (List Binary64) := texts.mapM numberOfCell?

/-- How each cell of a column compares with the one below it. -/
def stepOrders (texts : List String) : List Ordering :=
  match columnNumbers? texts with
  | some ns => List.zipWith numberOrder ns ns.tail
  | none => List.zipWith (fun a b => Text.order (plainCell a) (plainCell b)) texts texts.tail

/-- The first row that is out of order with the one above it. -/
def firstDisorder? (descending : Bool) (texts : List String) : Option Nat :=
  ((stepOrders texts).findIdx? fun o => !inOrder descending o).map (· + 1)

/-- **The verdict on the order of a column.** -/
def checkSorted (descending : Bool) (texts : List String) : Except Failure Unit :=
  match firstDisorder? descending texts with
  | none => .ok ()
  | some i =>
    let cell (j : Nat) : String := Text.trim (texts.getD j "")
    .error (.assertionFailed ("column not sorted "
      ++ (if descending then "descending" else "ascending") ++ ": '" ++ cell (i - 1)
      ++ "' before '" ++ cell i ++ "' at row " ++ toString i))

/-! ## §4. Doing it. -/

/-- The texts of an answer; anything but a list is no texts. -/
def textsOf : Json → List String
  | .arr items => items.map valueText
  | _ => []

/-- The number of rows. -/
def rowCount (table : String) : Task Session Nat := do
  let v ← Session.callElement (rows table) "count" []
  match v.asNumber? with
  | some x => return Step.count x
  | none => throw (.driver ("count returned " ++ v.compact))

/-- Texts as they are shown in a list. -/
def literalList (texts : List String) : String :=
  "[" ++ ", ".intercalate (texts.map Text.literal) ++ "]"

/-- Whether a header is meant by a text. -/
def isHeader (wanted header : String) : Bool :=
  LetterCase.asciiLower (Text.trim header) == LetterCase.asciiLower (Text.trim wanted)

/-- The position of a column. -/
def positionOf (table : String) : Column → Task Session Nat
  | .position n => return n
  | .header wanted => do
    let found := textsOf (← Session.callElement (headers table) "allInnerTexts" [])
    match found.findIdx? (isHeader wanted) with
    | some n => return n
    | none =>
      throw (.table ("column '" ++ wanted ++ "' not found in headers " ++ literalList found))

/-- The texts of a column. -/
def columnTexts (table : String) (column : Nat) : Task Session (List String) := do
  let v ← Session.callElement (cellsOf table column) "allInnerTexts" []
  return textsOf v

/-- The text of a cell. -/
def cellText (table : String) (row : Nat) (column : Column) : Task Session Json := do
  let c ← positionOf table column
  Session.callElement (cellAt table row c) "innerText" []

/-- Click on an element as often as asked. -/
def clickTimes (selector : String) : Nat → Task Session Unit
  | 0 => return ()
  | n + 1 => do
    let _ ← Session.callElement selector "click" []
    clickTimes selector n

/-- The rows whose cell contains a text, whatever the case of letters. -/
def matchingRows (wanted : String) (texts : List String) : List Nat :=
  let low := LetterCase.toLower wanted
  (texts.zipIdx.filter fun (t, _) => Text.contains (LetterCase.toLower t) low).map Prod.snd

/-- **Use a table;** the result is the output of the keyword. -/
def Use.perform (table : String) : Use → Task Session (Option Json)
  | .getCell row column => do
    let v ← cellText table row column
    return some v
  | .clickCell row column => do
    let c ← positionOf table column
    let _ ← Session.callElement (cellAt table row c) "click" []
    return none
  | .assertCell expected row column => do
    let actual := Text.trim (valueText (← cellText table row column))
    if actual = Text.trim expected then return none
    else
      throw (.assertionFailed ("table cell: expected '" ++ Text.trim expected ++ "', got '"
        ++ actual ++ "'"))
  | .getRowCount => do
    let n ← rowCount table
    return some (Json.ofNat n)
  | .assertRowCount expected => do
    let actual ← rowCount table
    if actual = expected then return none
    else
      throw (.assertionFailed ("table row count: expected " ++ toString expected ++ ", got "
        ++ toString actual))
  | .getColumn column => do
    let c ← positionOf table column
    let texts ← columnTexts table c
    return some (.arr (texts.map .str))
  | .findRow wanted column => do
    let c ← positionOf table column
    let texts ← columnTexts table c
    match texts.findIdx? fun t => Text.trim t == Text.trim wanted with
    | some i => return some (Json.ofNat i)
    | none => throw (.table ("no row with '" ++ wanted ++ "' in column " ++ toString c))
  | .sortBy column descending => do
    let c ← positionOf table column
    clickTimes (headerAt table c) (if descending then 2 else 1)
    return none
  | .filter wanted column => do
    let c ← positionOf table column
    let texts ← columnTexts table c
    return some (.arr ((matchingRows wanted texts).map Json.ofNat))
  | .assertSorted column descending => do
    let c ← positionOf table column
    let texts ← columnTexts table c
    Task.ofExcept (checkSorted descending texts)
    return none

end SuiteRunner.Table

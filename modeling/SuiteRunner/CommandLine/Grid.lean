import SuiteRunner.Text.Split
import SuiteRunner.Text.Width

/-!
  SuiteRunner.CommandLine.Grid
  ────────────────────────────────
  **ROWS OF CELLS IN A FRAME.**

  Every column is as wide as its widest line.  A cell may have several lines, and a row is as high
  as its highest cell.  A double line stands under the heads and a broken one between rows.
-/

namespace SuiteRunner.CommandLine.Grid

/-- The lines of a cell. -/
abbrev Cell := List String

/-- The lines of a text. -/
def cellOf (s : String) : Cell := Text.split "\n" s

/-- The width of a cell. -/
def cellWidth (c : Cell) : Nat := c.foldl (fun w l => max w (Text.width l.toList)) 0

/-- The greater of two widths, column by column. -/
def widest : List Nat → List Nat → List Nat
  | a :: as_, b :: bs => max a b :: widest as_ bs
  | [], bs => bs
  | as_, [] => as_

/-- The widths of columns. -/
def widths (rows : List (List Cell)) : List Nat :=
  rows.foldl (fun ws row => widest ws (row.map cellWidth)) []

/-- A character some times over. -/
def times (n : Nat) (c : Char) : String := String.ofList (List.replicate n c)

/-- A line of cells with blanks after each up to its width. -/
def textLine (ws : List Nat) (ls : List String) : String :=
  let padded := (ws.zip ls).map fun (w, l) => l ++ times (w - Text.width l.toList) ' '
  "│ " ++ " ┆ ".intercalate padded ++ " │\n"

/-- The lines of a row. -/
def rowLines (ws : List Nat) (row : List Cell) : String :=
  let height := row.foldl (fun h c => max h c.length) 1
  String.join ((List.range height).map fun i =>
    textLine ws (row.map fun c => c.getD i ""))

/-- A line of the frame. -/
def frameLine (left : String) (stroke : Char) (cross right : String) (ws : List Nat) : String :=
  left ++ cross.intercalate (ws.map fun w => times (w + 2) stroke) ++ right ++ "\n"

/-- **The lines of a table.** -/
def render (heads : List String) (rows : List (List String)) : String :=
  let heads := heads.map cellOf
  let rows := rows.map fun r => r.map cellOf
  let ws := widths (heads :: rows)
  frameLine "┌" '─' "┬" "┐" ws ++ rowLines ws heads ++ frameLine "╞" '═' "╪" "╡" ws
    ++ (frameLine "├" '╌' "┼" "┤" ws).intercalate (rows.map (rowLines ws))
    ++ frameLine "└" '─' "┴" "┘" ws

end SuiteRunner.CommandLine.Grid

import RegistryStorage.Text.Width

/-!
Tables in a drawn frame.

A table has a heading for each column and rows of cells. It is drawn with rounded corners, a
rule below the headings and none between the rows. A column is as wide as its widest line
with a space on either side; a cell of several lines makes its row as high, and the text of
every cell starts at the top left.
-/

set_option autoImplicit false

namespace RegistryStorage

/-- A table. -/
structure Table where
  headings : List String
  rows : List (List String)
deriving DecidableEq, Repr, Inhabited

namespace Table

/-- The headings and the rows. -/
def lines (t : Table) : List (List String) := t.headings :: t.rows

/-- The widths of the columns: the greatest width in each. -/
def widths (t : Table) : List Nat :=
  t.lines.foldl
    (fun widths row => List.zipWith max widths (row.map Text.width))
    (t.headings.map Text.width)

/-! ## Drawing -/

/-- A horizontal line of the frame between two ends, with a joint at every inner border. -/
def rule (first joint last : Char) (widths : List Nat) : List Char :=
  first :: [joint].intercalate (widths.map fun w => List.replicate (w + 2) '─') ++ [last]

/-- A line of text, filled up to a width. -/
def fill (width : Nat) (line : List Char) : List Char :=
  line ++ List.replicate (width - Text.lineWidth line) ' '

/-- The lines of a row: as many as its highest cell has. -/
def rowLines (widths : List Nat) (row : List String) : List (List Char) :=
  let cells := row.map Text.linesOf
  let height := (cells.map List.length).foldl max 0
  (List.range height).map fun i =>
    ['│'] ++
      (List.zip widths cells).flatMap fun (w, cell) =>
        ' ' :: fill w (cell[i]?.getD []) ++ [' ', '│']

/-- The drawing of a table, without a line feed at its end. -/
def drawn (t : Table) : String :=
  let ws := t.widths
  String.ofList <| ['\n'].intercalate <|
    [rule '╭' '┬' '╮' ws] ++ rowLines ws t.headings ++ [rule '├' '┼' '┤' ws] ++
      t.rows.flatMap (rowLines ws) ++ [rule '╰' '┴' '╯' ws]

end Table

end RegistryStorage

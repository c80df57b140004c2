import MiniSql.Relation

/-! A relation as a box of text: a bar, the header, a bar, the rows and a closing bar. A column is as
wide as its widest entry. -/

namespace MiniSql.Grid

/-- The greatest length among a header and the cells below it. -/
def width (header : String) (cells : List String) : Nat :=
  cells.foldl (fun widest cell => max widest cell.length) header.length

/-- One width for each column; a row too short for a column has no say in it. -/
def widths (columns : List String) (cells : List (List String)) : List Nat :=
  columns.zipIdx.map fun entry => width entry.1 (cells.filterMap fun row => row[entry.2]?)

def padded (width : Nat) (text : String) : String := text ++ String.ofList (List.replicate (width - text.length) ' ')

def bar (widths : List Nat) : String :=
  "+" ++ String.join (widths.map fun width => String.ofList (List.replicate (width + 2) '-') ++ "+")

/-- Cells without a column are left out. -/
def line (widths : List Nat) (cells : List String) : String :=
  "|" ++ String.join (cells.zipWith (fun cell width => " " ++ padded width cell ++ " |") widths)

def lines (columns : List String) (rows : List Row) : List String :=
  let cells := rows.map fun row => row.map Value.render
  let widths := widths columns cells
  [bar widths, line widths columns, bar widths] ++ cells.map (line widths) ++ [bar widths]

def render (columns : List String) (rows : List Row) : String := "\n".intercalate (lines columns rows)

end MiniSql.Grid

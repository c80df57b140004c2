import MiniSql.Command

/-! Tables, stored by column. The number of rows is kept beside the columns, since a table without
columns has rows too. Nothing here looks at types: a cell holds whatever it is given. -/

namespace MiniSql

abbrev Row := List Value

structure Column where
  name : String
  datatype : Datatype
  values : Array Value
  deriving DecidableEq

structure Table where
  name : String
  columns : List Column
  rowCount : Nat
  deriving DecidableEq

/-- The position of a column, the first of equal names winning; `table` is the name an error gives to
where it was looked for. -/
def columnPosition (table : String) (columns : List String) (name : String) : Except Error Nat :=
  match columns.idxOf? name with
  | some index => .ok index
  | none => .error (.unknownColumn table name)

/-- The first name that also stands earlier. -/
def firstRepeated : List String → List String → Option String
  | _, [] => none
  | earlier, name :: names => if name ∈ earlier then some name else firstRepeated (name :: earlier) names

namespace Table

/-- A table without rows. -/
def declare (name : String) (columns : List ColumnDef) : Except Error Table :=
  match firstRepeated [] (columns.map ColumnDef.name) with
  | some column => .error (.duplicateColumn name column)
  | none => .ok ⟨name, columns.map fun column => ⟨column.name, column.datatype, #[]⟩, 0⟩

def columnNames (table : Table) : List String := table.columns.map Column.name

def columnIndex (table : Table) (name : String) : Except Error Nat := columnPosition table.name table.columnNames name

/-- The row at a position, one value for each column. NULL stands for a value that a column lacks; no table lacks one,
whatever has been done to it. -/
def rowAt (table : Table) (index : Nat) : Row := table.columns.map fun column => column.values.getD index .null

def row? (table : Table) (index : Nat) : Option Row :=
  if index < table.rowCount then some (table.rowAt index) else none

/-- The row at a position, with the name of its column beside each value. -/
def record? (table : Table) (index : Nat) : Option (List (String × Value)) :=
  (table.row? index).map fun row => table.columnNames.zip row

/-- All rows, in the order in which they were appended. -/
def rows (table : Table) : List Row := (List.range table.rowCount).map table.rowAt

def append (table : Table) (row : Row) : Except Error Table :=
  if row.length = table.columns.length then
    .ok { table with
      columns := table.columns.zipWith (fun column value => { column with values := column.values.push value }) row
      rowCount := table.rowCount + 1 }
  else .error (.valueCount table.columns.length row.length Keyword.INSERT.text)

def setCell (table : Table) (row column : Nat) (value : Value) : Except Error Table :=
  match table.columns[column]? with
  | some target =>
    if row < target.values.size then
      let changed := { target with values := target.values.setIfInBounds row value }
      .ok { table with columns := table.columns.set column changed }
    else .error .cellOutOfRange
  | none => .error .cellOutOfRange

/-- The elements whose position, counted from `start`, is not listed. -/
def dropPositions (positions : List Nat) : Nat → List α → List α
  | _, [] => []
  | start, item :: items =>
    if start ∈ positions then dropPositions positions (start + 1) items
    else item :: dropPositions positions (start + 1) items

/-- The table without the rows at the given positions. A position behind the last row names none. They are to be
ascending, for then a search by halves finds those that are listed and no others. -/
def deleteRows (table : Table) (positions : List Nat) : Table :=
  { table with
    columns := table.columns.map fun column =>
      { column with values := (dropPositions positions 0 column.values.toList).toArray }
    rowCount := table.rowCount - (positions.filter fun position => decide (position < table.rowCount)).length }

end Table

end MiniSql

import MiniSql.Proofs.TableRows
import MiniSql.Table.Change

/-! A table as nothing but a name, typed columns and a list of rows, and what the statements do to
it. Conditions mark rows; marked rows are overwritten or dropped in one pass, without positions. -/

namespace MiniSql

def ColumnDef.valueOf (command : Keyword) (column : ColumnDef) (token : Token) : Except Error Value := do
  let value ← Value.ofToken token
  if value.fits column.datatype then return value
  else throw (.valueType column.datatype.name value.typeName command.text)

structure RowTable where
  name : String
  columns : List ColumnDef
  rows : List Row
  deriving DecidableEq

namespace RowTable

def columnNames (table : RowTable) : List String := table.columns.map ColumnDef.name

def toRelation (table : RowTable) : Relation := ⟨table.columnNames, table.rows⟩

/-- One well-typed value for each column. -/
def typedRow (table : RowTable) (tokens : List Token) : Except Error Row := do
  if tokens.length ≠ table.columns.length then
    throw (.valueCount table.columns.length tokens.length Keyword.INSERT.text)
  (table.columns.zip tokens).mapM fun entry => entry.1.valueOf .INSERT entry.2

def insert (table : RowTable) (tokens : List Token) : Except Error RowTable := do
  return { table with rows := table.rows ++ [← table.typedRow tokens] }

/-- For each row whether the condition holds for it; without a condition all rows are marked. -/
def marks (table : RowTable) : Option Condition → Except Error (List Bool)
  | none => return table.rows.map fun _ => true
  | some condition => do
    condition.check table.name table.columnNames
    table.rows.mapM fun row => condition.holds table.name table.columnNames row

/-- The row with new values in the assigned cells. Of several values for one cell the last counts. -/
def overwrite (changes : List Table.CellChange) (row : Row) : Row :=
  row.mapIdx fun index cell =>
    match changes.reverse.find? fun change => change.column == index with
    | some change => change.value
    | none => cell

def cellChange (table : RowTable) (assignment : Assignment) : Except Error Table.CellChange := do
  let index ← columnPosition table.name table.columnNames assignment.column
  match table.columns[index]? with
  | some column => return ⟨index, ← column.valueOf .UPDATE assignment.value⟩
  | none => throw .cellOutOfRange

/-- Overwrites the marked rows and counts them. -/
def update (table : RowTable) (assignments : List Assignment) (filter : Option Condition) :
    Except Error (RowTable × Nat) := do
  let changes ← assignments.mapM table.cellChange
  let marks ← table.marks filter
  let rows := table.rows.zipWith (fun row marked => if marked then overwrite changes row else row) marks
  return ({ table with rows }, marks.count true)

/-- Drops the marked rows and counts them. -/
def delete (table : RowTable) (condition : Condition) : Except Error (RowTable × Nat) := do
  let marks ← table.marks (some condition)
  let rows := ((table.rows.zip marks).filter fun entry => !entry.2).map Prod.fst
  return ({ table with rows }, marks.count true)

end RowTable

/-- What a table stands for. -/
def Table.contents (table : Table) : RowTable := ⟨table.name, table.schema, table.rows⟩

end MiniSql

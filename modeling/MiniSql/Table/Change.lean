import MiniSql.Relation.Filter

/-! INSERT, UPDATE and DELETE on one table. Values are checked and rows are chosen before the first
write; the writes are made one by one. -/

namespace MiniSql

namespace Column

/-- The value of a token, if a column of this type can hold it. -/
def typedValue (command : Keyword) (column : Column) (token : Token) : Except Error Value := do
  let value ← Value.ofToken token
  if value.fits column.datatype then return value
  else throw (.valueType column.datatype.name value.typeName command.text)

end Column

namespace Table

def typedRow : List Column → List Token → Except Error Row
  | column :: columns, token :: tokens => do
    let value ← column.typedValue .INSERT token
    return value :: (← typedRow columns tokens)
  | _, _ => return []

/-- Positions of the rows that pass a test, the first row being at `start`. -/
def passing (test : Row → Except Error Bool) : Nat → List Row → Except Error (List Nat)
  | _, [] => return []
  | start, row :: rows => do
    if ← test row then return start :: (← passing test (start + 1) rows) else passing test (start + 1) rows

/-- Positions of the rows a condition holds for; without a condition, of all rows. -/
def matching (table : Table) : Option Condition → Except Error (List Nat)
  | none => return List.range table.rowCount
  | some condition => do
    condition.check table.name table.columnNames
    passing (fun row => condition.holds table.name table.columnNames row) 0 table.rows

structure CellChange where
  column : Nat
  value : Value

def cellChange (table : Table) (assignment : Assignment) : Except Error CellChange := do
  let index ← table.columnIndex assignment.column
  match table.columns[index]? with
  | some column => return ⟨index, ← column.typedValue .UPDATE assignment.value⟩
  | none => throw .cellOutOfRange

def cellChanges (table : Table) (assignments : List Assignment) : Except Error (List CellChange) :=
  assignments.mapM table.cellChange

end Table

/-- Work on the table it is run on. -/
abbrev Edit := Stateful Table

namespace Edit

def insert (tokens : List Token) : Edit Unit := do
  let table ← get
  if tokens.length ≠ table.columns.length then
    throw (.valueCount table.columns.length tokens.length Keyword.INSERT.text)
  let row ← Table.typedRow table.columns tokens
  set (← table.append row)

/-- Makes the changes in one row, a later one over an earlier one. -/
def changeRow (changes : List Table.CellChange) (row : Nat) : Edit Unit :=
  changes.forM fun change => do set (← (← get).setCell row change.column change.value)

def update (assignments : List Assignment) (filter : Option Condition) : Edit Nat := do
  let table ← get
  let changes ← table.cellChanges assignments
  let rows ← table.matching filter
  rows.forM (changeRow changes)
  return rows.length

def delete (condition : Condition) : Edit Nat := do
  let table ← get
  let rows ← table.matching (some condition)
  set (table.deleteRows rows)
  return rows.length

end Edit

end MiniSql

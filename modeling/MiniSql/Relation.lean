import MiniSql.Table

/-! Relations: named columns and the rows a query works on. -/

namespace MiniSql

structure Relation where
  columns : List String
  rows : List Row
  deriving DecidableEq

def Table.toRelation (table : Table) : Relation := ⟨table.columnNames, table.rows⟩

def Row.cell (row : Row) (index : Nat) : Except Error Value :=
  match row[index]? with
  | some value => .ok value
  | none => .error .cellOutOfRange

namespace Relation

/-- The rows that pass a test, the tests being made in the order of the rows. -/
def keep (test : Row → Except Error Bool) : List Row → Except Error (List Row)
  | [] => return []
  | row :: rows => do if ← test row then return row :: (← keep test rows) else keep test rows

end Relation

end MiniSql

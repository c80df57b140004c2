import MiniSql.Relation.Grid

/-! What a statement that succeeds gives back. -/

namespace MiniSql

inductive Outcome where
  | created (table : String)
  | dropped (table : String)
  | inserted (table : String)
  | relation (relation : Relation)
  | updated (table : String) (count : Nat)
  | deleted (table : String) (count : Nat)
  deriving DecidableEq

namespace Outcome

def render : Outcome → String
  | created table => "Table '" ++ table ++ "' has been created"
  | dropped table => "Table '" ++ table ++ "' has been dropped"
  | inserted _ => "Data Inserted"
  | relation result => Grid.render result.columns result.rows
  | updated table _ => "Data in '" ++ table ++ "' has been updated"
  | deleted table _ => "Data from '" ++ table ++ "' has been deleted"

def toRelation : Outcome → Except Error Relation
  | relation result => .ok result
  | other => .error (.unsupportedCommand (other.render ++ " is not a row source"))

end Outcome

end MiniSql

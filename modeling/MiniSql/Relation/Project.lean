import MiniSql.Relation

/-! Choosing columns and rows by position, and dropping repeated rows. -/

namespace MiniSql.Relation

def project (relation : Relation) (table : String) (names : List String) : Except Error Relation := do
  let positions ← names.mapM (columnPosition table relation.columns)
  return ⟨names, ← relation.rows.mapM fun row => positions.mapM row.cell⟩

def offset (relation : Relation) (count : Nat) : Relation := { relation with rows := relation.rows.drop count }

def limit (relation : Relation) (count : Nat) : Relation := { relation with rows := relation.rows.take count }

def firstOccurrences : List Row → List Row → List Row
  | _, [] => []
  | seen, row :: rows =>
    if row ∈ seen then firstOccurrences seen rows else row :: firstOccurrences (row :: seen) rows

/-- Each row once, at its first place. NULL equals NULL here. -/
def distinct (relation : Relation) : Relation := { relation with rows := firstOccurrences [] relation.rows }

end MiniSql.Relation

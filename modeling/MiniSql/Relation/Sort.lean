import MiniSql.Relation

/-! ORDER BY: a stable insertion sort by several keys. Values that cannot be compared stop it, and
the pair the error names is the later row before the earlier one. -/

namespace MiniSql

def Direction.apply : Direction → Ordering → Ordering
  | .ascending, order => order
  | .descending, order => order.swap

namespace Relation

/-- A sort key by the position of its column. -/
structure SortPosition where
  index : Nat
  direction : Direction

/-- The order of two rows by the first key that tells them apart. -/
def compareRows : List SortPosition → Row → Row → Except Error Ordering
  | [], _, _ => return .eq
  | key :: keys, left, right => do
    let first ← left.cell key.index
    let second ← right.cell key.index
    match first.compare? second with
    | some .eq => compareRows keys left right
    | some order => return key.direction.apply order
    | none => throw (.valueType first.typeName second.typeName "ORDER BY")

/-- Puts a row in its place among rows that are sorted from the last to the first. It goes behind
those it is equal to. -/
def insertRow (keys : List SortPosition) (row : Row) : List Row → Except Error (List Row)
  | [] => return [row]
  | last :: rows => do
    if (← compareRows keys row last) = .lt then return last :: (← insertRow keys row rows)
    else return row :: last :: rows

def sortRows (keys : List SortPosition) (rows : List Row) : Except Error (List Row) := do
  return (← rows.foldlM (fun sorted row => insertRow keys row sorted) []).reverse

def sortPosition (table : String) (columns : List String) (key : SortKey) : Except Error SortPosition := do
  return ⟨← columnPosition table columns key.column, key.direction⟩

def sort (relation : Relation) (table : String) (keys : List SortKey) : Except Error Relation := do
  let positions ← keys.mapM (sortPosition table relation.columns)
  return { relation with rows := ← sortRows positions relation.rows }

end Relation

end MiniSql

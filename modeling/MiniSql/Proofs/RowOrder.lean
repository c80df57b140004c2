import MiniSql.Proofs.Except
import MiniSql.Proofs.StableSort
import MiniSql.Relation.Sort

/-! ORDER BY as a stable sort. Rows are compared by the values that their named columns have; where the
insertion sort comes to an end, it has sorted its rows stably by that order. -/

namespace MiniSql
open Std

theorem columnPosition_of_mem {columns : List String} {name : String} (table : String) (member : name ∈ columns) :
    columnPosition table columns name = .ok (columns.idxOf name) := by
  obtain ⟨index, found⟩ := Option.isSome_iff_exists.mp (List.isSome_idxOf?.mpr member)
  unfold columnPosition
  rw [found, List.idxOf_eq_getD_idxOf?, found]
  rfl

theorem columnPosition_eq_ok {table : String} {columns : List String} {name : String} {index : Nat} :
    columnPosition table columns name = .ok index ↔ name ∈ columns ∧ index = columns.idxOf name := by
  constructor
  · intro found
    by_cases member : name ∈ columns
    · rw [columnPosition_of_mem table member] at found
      exact ⟨member, (Except.ok.inj found).symm⟩
    · rw [columnPosition, List.idxOf?_eq_none_iff.mpr member] at found
      cases found
  · intro ⟨member, same⟩
    rw [columnPosition_of_mem table member, same]

namespace Row

/-- The value a row has in the column of this name. -/
def value (columns : List String) (row : Row) (name : String) : Value := row.getD (columns.idxOf name) .null

theorem cell_eq_ok {row : Row} {index : Nat} {value : Value} : row.cell index = .ok value ↔ row[index]? = some value := by
  unfold cell
  cases row[index]? <;> simp

theorem getD_of_cell {row : Row} {index : Nat} {value : Value} (read : row.cell index = .ok value) :
    row.getD index .null = value := by
  simp [List.getD, cell_eq_ok.mp read]

theorem cell_of_mem {columns : List String} {row : Row} {name : String} (long : row.length = columns.length)
    (member : name ∈ columns) : row.cell (columns.idxOf name) = .ok (row.value columns name) := by
  have inside : columns.idxOf name < row.length := long ▸ List.idxOf_lt_length_of_mem member
  simp [cell_eq_ok, value, inside]

theorem value_of_cell {columns : List String} {row : Row} {name : String} {value : Value}
    (read : row.cell (columns.idxOf name) = .ok value) : row.value columns name = value :=
  getD_of_cell read

end Row

namespace Value

/-- The order of values. An integer and a text, which are never compared, stand in the order of their types. -/
def order : Value → Value → Ordering
  | null, null => .eq
  | null, _ => .lt
  | _, null => .gt
  | int left, int right => compare left right
  | text left, text right => compare left right
  | int _, text _ => .lt
  | text _, int _ => .gt

instance : TransCmp order where
  eq_swap := by
    intro left right
    cases left <;> cases right
    case int.int left right => exact OrientedOrd.eq_swap
    case text.text left right => exact OrientedOrd.eq_swap
    all_goals rfl
  isLE_trans := by
    intro left middle right one other
    cases left <;> cases middle <;> cases right
    case int.int.int left middle right => exact @TransCmp.isLE_trans _ compare _ left middle right one other
    case text.text.text left middle right => exact @TransCmp.isLE_trans _ compare _ left middle right one other
    all_goals simp_all [order]

theorem order_swap (left right : Value) : left.order right = (right.order left).swap := OrientedCmp.eq_swap

theorem order_of_compare {left right : Value} {order : Ordering} (compared : left.compare? right = some order) :
    left.order right = order := by
  cases left <;> cases right <;> simp_all [compare?, Value.order]

end Value

namespace SortKey

/-- The order of two rows by one key. -/
def order (columns : List String) (key : SortKey) (left right : Row) : Ordering :=
  key.direction.apply ((left.value columns key.column).order (right.value columns key.column))

instance (columns : List String) (key : SortKey) : TransCmp (key.order columns) where
  eq_swap := by
    intro left right
    unfold order
    rw [Value.order_swap]
    cases key.direction <;> rfl
  isLE_trans := by
    intro left middle right one other
    unfold order at one other ⊢
    generalize key.direction = direction at one other ⊢
    cases direction with
    | ascending =>
      simp only [Direction.apply] at one other ⊢
      exact TransCmp.isLE_trans one other
    | descending =>
      simp only [Direction.apply, ← Value.order_swap] at one other ⊢
      exact TransCmp.isLE_trans other one

end SortKey

/-- The order of two rows by the first key that tells them apart. -/
def rowOrder (columns : List String) : List SortKey → Row → Row → Ordering
  | [] => fun _ _ => .eq
  | key :: keys => compareLex (key.order columns) (rowOrder columns keys)

instance (columns : List String) (keys : List SortKey) : TransCmp (rowOrder columns keys) := by
  induction keys with
  | nil => exact { eq_swap := rfl, isLE_trans := fun _ _ => rfl }
  | cons key keys ih => exact inferInstanceAs (TransCmp (compareLex (key.order columns) (rowOrder columns keys)))

private theorem rowOrder_swap (columns : List String) (keys : List SortKey) (left right : Row) :
    rowOrder columns keys left right = (rowOrder columns keys right left).swap :=
  OrientedCmp.eq_swap

namespace Relation

/-- Sort keys by the positions of their columns. -/
def sortPositions (columns : List String) (keys : List SortKey) : List SortPosition :=
  keys.map fun key => ⟨columns.idxOf key.column, key.direction⟩

theorem sortPositions_of_mapM {table : String} {columns : List String} {keys : List SortKey} {positions : List SortPosition}
    (resolved : keys.mapM (sortPosition table columns) = .ok positions) : positions = sortPositions columns keys := by
  refine Except.eq_map_of_mapM (fun key position found => ?_) resolved
  obtain ⟨index, present, same⟩ := Except.bind_eq_ok.mp found
  rw [← (columnPosition_eq_ok.mp present).2]
  exact Except.ok.inj same

private theorem compareRows_eq_ok {columns : List String} {keys : List SortKey} {left right : Row} {order : Ordering}
    (done : compareRows (sortPositions columns keys) left right = .ok order) : rowOrder columns keys left right = order := by
  induction keys with
  | nil => exact Except.ok.inj done
  | cons key keys ih =>
    obtain ⟨first, readFirst, done⟩ := Except.bind_eq_ok.mp done
    obtain ⟨second, readSecond, done⟩ := Except.bind_eq_ok.mp done
    have byKey (found : Ordering) (compared : first.compare? second = some found) :
        key.order columns left right = key.direction.apply found := by
      rw [SortKey.order, Row.value_of_cell readFirst, Row.value_of_cell readSecond, Value.order_of_compare compared]
    unfold rowOrder compareLex
    split at done
    next compared => rw [byKey .eq compared, ih done]; cases key.direction <;> rfl
    next found different compared =>
      cases done
      rw [byKey found compared]
      have apart : key.direction.apply found ≠ .eq := by
        cases key.direction <;> cases found <;> simp_all [Direction.apply]
      cases applied : key.direction.apply found
      · rfl
      · exact absurd applied apart
      · rfl
    next => cases done

/-- Where a row can be compared with what is there, it is put in front of the first row that it does not come before. -/
theorem insertRow_eq_ok {columns : List String} {keys : List SortKey} {row : Row} {rows sorted : List Row}
    (done : insertRow (sortPositions columns keys) row rows = .ok sorted) :
    sorted = rows.orderedInsert (fun first second => (rowOrder columns keys second first).isLE) row := by
  induction rows generalizing sorted with
  | nil => exact (Except.ok.inj done).symm
  | cons last rows ih =>
    obtain ⟨order, compared, done⟩ := Except.bind_eq_ok.mp done
    rw [List.orderedInsert_cons, rowOrder_swap, compareRows_eq_ok compared]
    split at done
    next before =>
      obtain ⟨rest, inserted, done⟩ := Except.bind_eq_ok.mp done
      rw [← Except.ok.inj done, ih inserted, if_neg (by simp [before])]
    next notBefore =>
      rw [← Except.ok.inj done, if_pos (by cases order <;> simp_all)]

theorem insertRow_returns {positions : List SortPosition} {row : Row} {rows : List Row}
    (comparable : ∀ other ∈ rows, Except.Returns (compareRows positions row other) fun _ => True) :
    Except.Returns (insertRow positions row rows) fun sorted => ∀ other ∈ sorted, other = row ∨ other ∈ rows := by
  induction rows with
  | nil => exact .ok (by simp)
  | cons last rows ih =>
    obtain ⟨first, others⟩ := List.forall_mem_cons.mp comparable
    refine .bind first fun order _ => ?_
    split
    · refine .bind (ih others) fun sorted known => .ok fun other member => ?_
      rcases List.mem_cons.mp member with rfl | member
      · simp
      · exact (known other member).imp_right (List.mem_cons_of_mem last)
    · exact .ok (by simp)

private theorem insertRows_eq_ok {columns : List String} {keys : List SortKey} {rows before sorted : List Row}
    (done : rows.foldlM (fun sorted row => insertRow (sortPositions columns keys) row sorted) before = .ok sorted) :
    sorted =
      rows.reverse.foldr (List.orderedInsert fun first second => (rowOrder columns keys second first).isLE) before := by
  rw [List.foldr_reverse]
  induction rows generalizing before with
  | nil => exact (Except.ok.inj done).symm
  | cons row rows ih =>
    rw [List.foldlM_cons] at done
    obtain ⟨middle, inserted, done⟩ := Except.bind_eq_ok.mp done
    rw [List.foldl_cons, ← insertRow_eq_ok inserted]
    exact ih done

theorem sortRows_returns {positions : List SortPosition} {rows : List Row}
    (comparable : ∀ first ∈ rows, ∀ second ∈ rows, Except.Returns (compareRows positions first second) fun _ => True) :
    Except.Returns (sortRows positions rows) fun sorted => ∀ row ∈ sorted, row ∈ rows := by
  have inserted : Except.Returns (rows.foldlM (fun sorted row => insertRow positions row sorted) [])
      fun sorted => ∀ row ∈ sorted, row ∈ rows := by
    refine .foldlM (by simp) fun sorted known row member => ?_
    have inserted := insertRow_returns fun other present => comparable row member other (known other present)
    refine inserted.imp fun after kept other present => ?_
    rcases kept other present with rfl | old
    · exact member
    · exact known other old
  exact .bind inserted fun sorted known => .ok fun row member => known row (List.mem_reverse.mp member)

/-- The rows have values in the columns of all keys, and these have an order. -/
def Comparable (columns : List String) (keys : List SortKey) (left right : Row) : Prop :=
  ∀ key ∈ keys, ∃ one other order, left.cell (columns.idxOf key.column) = .ok one ∧
    right.cell (columns.idxOf key.column) = .ok other ∧ one.compare? other = some order

private theorem compareRows_returns {columns : List String} {keys : List SortKey} {left right : Row}
    (comparable : Comparable columns keys left right) :
    Except.Returns (compareRows (sortPositions columns keys) left right) fun _ => True := by
  induction keys with
  | nil => exact .ok trivial
  | cons key keys ih =>
    obtain ⟨⟨one, other, order, read, readOther, compared⟩, others⟩ := List.forall_mem_cons.mp comparable
    refine .step read (.step readOther ?_)
    rw [compared]
    cases order with
    | eq => exact ih others
    | lt => exact .ok trivial
    | gt => exact .ok trivial

theorem sort_returns {relation : Relation} {keys : List SortKey} (table : String)
    (known : ∀ key ∈ keys, key.column ∈ relation.columns)
    (comparable : ∀ first ∈ relation.rows, ∀ second ∈ relation.rows, Comparable relation.columns keys first second) :
    Except.Returns (relation.sort table keys) fun sorted =>
      sorted.columns = relation.columns ∧ ∀ row ∈ sorted.rows, row ∈ relation.rows := by
  have resolved : keys.mapM (sortPosition table relation.columns) = .ok (sortPositions relation.columns keys) := by
    refine Except.mapM_of_forall fun key member => ?_
    rw [sortPosition, columnPosition_of_mem table (known key member)]
    rfl
  have sorted := sortRows_returns fun first member second present =>
    compareRows_returns (comparable first member second present)
  exact .step resolved (.bind sorted fun rows kept => .ok ⟨rfl, kept⟩)

/-- A sort that comes to an end is stable. -/
theorem sortRows_eq_ok {columns : List String} {keys : List SortKey} {rows sorted : List Row}
    (done : sortRows (sortPositions columns keys) rows = .ok sorted) :
    StableSort (rowOrder columns keys) rows sorted := by
  obtain ⟨descending, inserted, same⟩ := Except.bind_eq_ok.mp done
  obtain rfl := Except.ok.inj same
  rw [insertRows_eq_ok inserted]
  exact StableSort.insertionSort (rowOrder columns keys) rows

end Relation

end MiniSql

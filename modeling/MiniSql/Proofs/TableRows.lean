import Mathlib.Data.List.Basic
import MiniSql.Table

/-! A table as the list of its rows. The columns and the number of rows are changed by separate
steps; on an aligned table each operation is an operation on the list of rows. -/

namespace MiniSql

def Column.declaration (column : Column) : ColumnDef := ⟨column.name, column.datatype⟩

namespace Table

/-- Every column holds one value for each row. -/
def Aligned (table : Table) : Prop := ∀ column ∈ table.columns, column.values.size = table.rowCount

/-- The columns without their values. -/
def schema (table : Table) : List ColumnDef := table.columns.map Column.declaration

theorem names_schema (table : Table) : table.schema.map ColumnDef.name = table.columnNames := by
  simp [schema, columnNames, Function.comp_def, Column.declaration]

@[simp] theorem length_schema (table : Table) : table.schema.length = table.columns.length := by simp [schema]

@[simp] theorem length_rows (table : Table) : table.rows.length = table.rowCount := by simp [rows]

@[simp] theorem length_rowAt (table : Table) (index : Nat) : (table.rowAt index).length = table.columns.length := by
  simp [rowAt]

theorem length_of_mem_rows {table : Table} {row : Row} (member : row ∈ table.rows) :
    row.length = table.columnNames.length := by
  obtain ⟨index, _, rfl⟩ := List.mem_map.mp member
  simp [columnNames]

private theorem rows_eq_of_row? {table : Table} {rows : List Row} (count : table.rowCount = rows.length)
    (same : ∀ (index : Nat) (inside : index < rows.length), table.rowAt index = rows[index]) : table.rows = rows := by
  apply List.ext_getElem (by simpa using count)
  intro index inside insideRows
  rw [← same index insideRows]
  simp [Table.rows]

theorem append_eq_ok {table after : Table} {row : Row} (done : table.append row = .ok after) :
    row.length = table.columns.length ∧ after.name = table.name ∧ after.rowCount = table.rowCount + 1 ∧
      after.columns = table.columns.zipWith (fun column value => { column with values := column.values.push value }) row := by
  unfold append at done
  split at done
  next length => cases done; exact ⟨length, rfl, rfl, rfl⟩
  next => cases done

private theorem append_column {table after : Table} {row : Row} {column : Column} (done : table.append row = .ok after)
    (member : column ∈ after.columns) :
    ∃ (index : Nat) (old : Column) (value : Value), table.columns[index]? = some old ∧ row[index]? = some value ∧
      column = { old with values := old.values.push value } := by
  obtain ⟨_, _, _, columns⟩ := append_eq_ok done
  rw [columns] at member
  obtain ⟨index, found⟩ := List.mem_iff_getElem?.mp member
  obtain ⟨old, value, before, given, rfl⟩ := List.getElem?_zipWith_eq_some.mp found
  exact ⟨index, old, value, before, given, rfl⟩

theorem append_aligned {table after : Table} {row : Row} (aligned : table.Aligned) (done : table.append row = .ok after) :
    after.Aligned := by
  obtain ⟨_, _, count, _⟩ := append_eq_ok done
  intro column member
  obtain ⟨index, old, value, before, _, rfl⟩ := append_column done member
  rw [Array.size_push, aligned old (List.mem_of_getElem? before), count]

theorem append_schema {table after : Table} {row : Row} (done : table.append row = .ok after) :
    after.schema = table.schema := by
  obtain ⟨length, _, _, columns⟩ := append_eq_ok done
  simp only [schema, columns]
  apply List.ext_getElem (by simp [length])
  intro index inside insideSchema
  simp [Column.declaration]

theorem append_rows {table after : Table} {row : Row} (aligned : table.Aligned) (done : table.append row = .ok after) :
    after.rows = table.rows ++ [row] := by
  obtain ⟨length, _, count, columns⟩ := append_eq_ok done
  apply rows_eq_of_row? (by simp [count])
  intro index inside
  apply List.ext_getElem
  · rw [List.getElem_append]
    split <;> simp [columns, length, rows]
  · intro position insideRow insideOther
    have insideColumns : position < table.columns.length := by
      simp only [rowAt, columns, List.length_map, List.length_zipWith, length] at insideRow
      omega
    have size : table.columns[position].values.size = table.rowCount := aligned _ (List.getElem_mem _)
    simp only [rowAt, columns, List.getElem_map, List.getElem_zipWith, Array.getD_eq_getD_getElem?, Array.getElem?_push, size]
    simp only [List.length_append, length_rows, List.length_singleton] at inside
    split
    next last => subst index; simp
    next earlier =>
      have old : index < table.rowCount := by omega
      simp [List.getElem_append_left, old, rows, rowAt]

theorem setCell_eq_ok {table : Table} {row column : Nat} (value : Value) (aligned : table.Aligned)
    (insideRows : row < table.rowCount) (insideColumns : column < table.columns.length) :
    table.setCell row column value = .ok { table with
      columns := table.columns.modify column fun target => { target with values := target.values.setIfInBounds row value } } := by
  have size : table.columns[column].values.size = table.rowCount := aligned _ (List.getElem_mem _)
  simp only [setCell, List.getElem?_eq_getElem insideColumns, size, insideRows, if_true]
  rw [List.modify_eq_set_get _ insideColumns]
  rfl

/-- A cell is changed without touching names, types or lengths, and only in its own row. -/
theorem setCell_spec {table after : Table} {row column : Nat} {value : Value} (aligned : table.Aligned)
    (insideRows : row < table.rowCount) (insideColumns : column < table.columns.length)
    (done : table.setCell row column value = .ok after) :
    after.name = table.name ∧ after.rowCount = table.rowCount ∧ after.schema = table.schema ∧ after.Aligned ∧
      after.rows = table.rows.modify row fun cells => cells.set column value := by
  rw [setCell_eq_ok value aligned insideRows insideColumns] at done
  cases done
  refine ⟨rfl, rfl, ?_, ?_, ?_⟩
  · apply List.ext_getElem (by simp [schema])
    intro index inside _
    simp only [schema, List.getElem_map, List.getElem_modify]
    split <;> rfl
  · intro target member
    obtain ⟨index, found⟩ := List.mem_iff_getElem?.mp member
    rw [List.getElem?_modify, Option.map_eq_map, Option.map_eq_some_iff] at found
    obtain ⟨old, before, rfl⟩ := found
    have size := aligned old (List.mem_of_getElem? before)
    split <;> simpa using size
  · apply rows_eq_of_row? (by simp)
    intro index inside
    have insideTable : index < table.rowCount := by simpa using inside
    apply List.ext_getElem
    · simp only [List.getElem_modify]
      split <;> simp [rows]
    intro position insideRow _
    have insidePosition : position < table.columns.length := by simpa using insideRow
    have size : table.columns[position].values.size = table.rowCount := aligned _ (List.getElem_mem _)
    simp only [rowAt, List.getElem_map, List.getElem_modify, rows, List.getElem_range]
    by_cases sameColumn : column = position <;> by_cases sameRow : row = index
    all_goals simp [sameColumn, sameRow, Array.getD_eq_getD_getElem?, size, insideTable]

private theorem dropPositions_map (f : α → β) (positions : List Nat) (start : Nat) (items : List α) :
    dropPositions positions start (items.map f) = (dropPositions positions start items).map f := by
  induction items generalizing start with
  | nil => rfl
  | cons item items ih =>
    simp only [List.map_cons, dropPositions, ih]
    split <;> simp

private theorem dropPositions_range' (positions : List Nat) (start count : Nat) :
    dropPositions positions start (List.range' start count) = (List.range' start count).filter (· ∉ positions) := by
  induction count generalizing start with
  | zero => rfl
  | succ count ih =>
    simp only [List.range'_succ, dropPositions, ih, List.filter_cons]
    split <;> simp_all

def remaining (positions : List Nat) (count : Nat) : List Nat := (List.range count).filter (· ∉ positions)

private theorem dropPositions_eq_map (positions : List Nat) (count : Nat) (f : Nat → α) :
    dropPositions positions 0 ((List.range count).map f) = (remaining positions count).map f := by
  rw [dropPositions_map, remaining, List.range_eq_range', dropPositions_range']

private theorem length_remaining {positions : List Nat} (distinct : positions.Nodup) (count : Nat) :
    (remaining positions count).length = count - (positions.filter fun position => decide (position < count)).length := by
  have listed : ((List.range count).filter (· ∈ positions)).length =
      (positions.filter fun position => decide (position < count)).length := by
    apply List.Perm.length_eq
    apply (List.perm_ext_iff_of_nodup (List.nodup_range.filter _) (distinct.filter _)).mpr
    intro position
    simp [and_comm]
  have parts := @List.length_eq_length_filter_add _ (List.range count) (· ∈ positions)
  rw [List.length_range, listed] at parts
  simp only [remaining, decide_not]
  omega

theorem schema_deleteRows (table : Table) (positions : List Nat) : (table.deleteRows positions).schema = table.schema := by
  simp [schema, deleteRows, Function.comp_def, Column.declaration]

/-- Deletion keeps the other rows, in their order. -/
theorem deleteRows_spec {table : Table} {positions : List Nat} (aligned : table.Aligned) (distinct : positions.Nodup) :
    (table.deleteRows positions).Aligned ∧
      (table.deleteRows positions).rows = dropPositions positions 0 table.rows := by
  have count : (table.deleteRows positions).rowCount = (remaining positions table.rowCount).length :=
    (length_remaining distinct table.rowCount).symm
  have kept (column : Column) (member : column ∈ table.columns) :
      dropPositions positions 0 column.values.toList =
        (remaining positions table.rowCount).map fun index => column.values.getD index .null := by
    rw [← dropPositions_eq_map, ← aligned column member]
    congr 1
    apply List.ext_getElem (by simp)
    intro index inside _
    simp at inside
    simp [Array.getD_eq_getD_getElem?, inside]
  constructor
  · intro column member
    obtain ⟨old, before, rfl⟩ := List.mem_map.mp member
    simp [kept old before, count]
  · rw [rows, rows, dropPositions_eq_map, count]
    apply List.ext_getElem (by simp)
    intro index inside _
    have insideRemaining : index < (remaining positions table.rowCount).length := by simpa using inside
    simp only [List.getElem_map, List.getElem_range, rowAt, deleteRows, List.map_map]
    apply List.map_congr_left
    intro column member
    simp [kept column member, Array.getD_eq_getD_getElem?, insideRemaining]

end Table
end MiniSql

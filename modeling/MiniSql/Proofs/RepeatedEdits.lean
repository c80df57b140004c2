import MiniSql.Proofs.ChosenRows

/-! Edits made twice. What an UPDATE or a DELETE has left is left as it is when the same statement is run again: the rows that
were chosen already have the new values or are gone, and the other rows have not changed, so that they are not chosen either. -/

namespace MiniSql

namespace RowTable
variable {table after : RowTable} {count : Nat}

theorem overwrite_overwrite (changes : List Table.CellChange) (row : Row) :
    overwrite changes (overwrite changes row) = overwrite changes row := by
  rw [overwrite, overwrite, List.mapIdx_mapIdx]
  congr 1
  funext index cell
  simp only [Function.comp_apply]
  cases changes.reverse.find? fun change => change.column == index <;> rfl

/-- A row that is chosen again was chosen before, for otherwise it has not changed. -/
theorem updated_updated (table : RowTable) (filter : Option Condition) (changes : List Table.CellChange) (row : Row) :
    table.updated filter changes (table.updated filter changes row) = table.updated filter changes row := by
  cases chosen : table.chooses filter row with
  | true =>
    rw [updated_of_chooses chosen, updated]
    split
    · exact overwrite_overwrite changes row
    · rfl
  | false => rw [updated_of_not_chooses chosen, updated_of_not_chooses chosen]

private theorem update_eq_ok {assignments : List Assignment} {filter : Option Condition}
    (done : table.update assignments filter = .ok (after, count)) :
    ∃ changes, assignments.mapM table.cellChange = .ok changes ∧
      after = { table with rows := table.rows.map (table.updated filter changes) } := by
  obtain ⟨changes, resolved, _⟩ := Except.bind_eq_ok.mp done
  rw [update_eq_marks resolved] at done
  obtain ⟨marks, _, same⟩ := Except.map_eq_ok.mp done
  exact ⟨changes, resolved, (Prod.mk.inj same).1.symm⟩

/-- The edit leaves what it has made, where it can be made again. -/
def Settles (edit : RowTable → Except Error (RowTable × Nat)) : Prop :=
  ∀ table after again count more, edit table = .ok (after, count) → edit after = .ok (again, more) → again = after

private theorem update_settles (assignments : List Assignment) (filter : Option Condition) :
    Settles fun table => table.update assignments filter := by
  intro table after again count more done repeated
  obtain ⟨changes, resolved, rfl⟩ := update_eq_ok done
  obtain ⟨_, resolvedAgain, rfl⟩ := update_eq_ok repeated
  cases resolved.symm.trans resolvedAgain
  simp only [mk.injEq, true_and, List.map_map]
  exact List.map_congr_left fun row _ => table.updated_updated filter changes row

private theorem marks_of_subset {filter : Option Condition} {marks : List Bool} {rows : List Row}
    (found : table.marks filter = .ok marks) (known : rows ⊆ table.rows) :
    ∃ others, { table with rows }.marks filter = .ok others := by
  cases filter with
  | none => exact ⟨_, rfl⟩
  | some condition =>
    obtain ⟨_, checked, _⟩ := Except.bind_eq_ok.mp found
    refine ⟨rows.map (table.chooses (some condition)), Except.bind_eq_ok.mpr ⟨_, checked, ?_⟩⟩
    exact Except.mapM_of_forall fun row member => holds_of_marks found (known member)

/-- The condition still has an answer for the rows that are left, and holds for none. -/
theorem delete_again {condition : Condition} (done : table.delete condition = .ok (after, count)) :
    after.delete condition = .ok (after, 0) := by
  rw [delete_eq_marks] at done
  obtain ⟨marks, found, same⟩ := Except.map_eq_ok.mp done
  obtain ⟨rfl, _⟩ := Prod.mk.inj same
  have fewer : table.rows.filter (fun row => !table.chooses (some condition) row) ⊆ table.rows := List.filter_sublist.subset
  obtain ⟨others, foundAgain⟩ := marks_of_subset found fewer
  have alike (rows : List Row) : { table with rows }.chooses (some condition) = table.chooses (some condition) := rfl
  rw [delete_eq_marks, foundAgain]
  simp only [Functor.map, Except.map, alike, List.filter_filter]
  simp

private theorem delete_settles (condition : Condition) : Settles fun table => table.delete condition := by
  intro table after again count more done repeated
  cases (delete_again done).symm.trans repeated
  rfl

end RowTable

private theorem RowDatabase.set_set (database : RowDatabase) (name : String) (table other : Option RowTable) :
    (database.set name table).set name other = database.set name other := by
  funext key
  simp only [set]
  split <;> rfl

namespace Statement.Edits
variable {statement : Statement} {name : String} {edit : RowTable → Except Error (RowTable × Nat)}
  {outcome : String → Nat → Outcome} {database after : RowDatabase} {answer : Outcome}

private theorem apply_eq_ok (edits : statement.Edits name edit outcome) (done : database.apply statement = .ok (answer, after)) :
    ∃ table changed count, database.table name = .ok table ∧ edit table = .ok (changed, count) ∧
      answer = outcome changed.name count ∧ after = database.set name (some changed) := by
  rw [edits] at done
  obtain ⟨table, found, done⟩ := Except.bind_eq_ok.mp done
  obtain ⟨⟨changed, count⟩, edited, same⟩ := Except.bind_eq_ok.mp done
  cases same
  exact ⟨table, changed, count, found, edited, rfl, rfl⟩

private theorem step_again (edits : statement.Edits name edit outcome) (settles : RowTable.Settles edit) :
    (database.step statement).step statement = database.step statement := by
  cases applied : database.apply statement with
  | error error => simp only [RowDatabase.step, applied]
  | ok result =>
    obtain ⟨table, changed, count, _, edited, _, same⟩ := edits.apply_eq_ok applied
    have first : database.step statement = database.set name (some changed) := by
      rw [← same, RowDatabase.step, applied]
    rw [first, RowDatabase.step]
    split
    next again repeated =>
      obtain ⟨present, last, more, found, editedAgain, _, rfl⟩ := edits.apply_eq_ok repeated
      cases found.symm.trans (database.table_set name changed)
      rw [settles _ _ _ _ _ edited editedAgain, RowDatabase.set_set]
    next => rfl

end Statement.Edits

private theorem Column.eq_of_cells {first second : Column} (declared : first.declaration = second.declaration)
    (long : first.values.size = second.values.size)
    (same : ∀ position < first.values.size, first.values.getD position .null = second.values.getD position .null) :
    first = second := by
  obtain ⟨name, datatype, values⟩ := first
  obtain ⟨other, datatypeSecond, others⟩ := second
  obtain ⟨rfl, rfl⟩ := ColumnDef.mk.inj declared
  congr 1
  apply Array.ext long
  intro position inside insideSecond
  simpa [Array.getD_eq_getD_getElem?, inside, insideSecond] using same position inside

theorem Table.eq_of_contents {first second : Table} (aligned : first.Aligned) (alignedSecond : second.Aligned)
    (same : first.contents = second.contents) : first = second := by
  obtain ⟨name, columns, rowCount⟩ := first
  obtain ⟨other, others, rowCountSecond⟩ := second
  obtain ⟨rfl, schema, rows⟩ := RowTable.mk.inj same
  obtain rfl : rowCount = rowCountSecond := by simpa using congrArg List.length rows
  congr 1
  apply List.ext_getElem (by simpa [Table.schema] using congrArg List.length schema)
  intro index inside insideSecond
  have size : columns[index].values.size = rowCount := aligned _ (List.getElem_mem inside)
  have sizeSecond : others[index].values.size = rowCount := alignedSecond _ (List.getElem_mem insideSecond)
  apply Column.eq_of_cells
  · have declared := congrArg (fun schema => schema[index]?) schema
    simpa [Table.schema, inside, insideSecond] using declared
  · exact size.trans sizeSecond.symm
  · intro position insideRows
    have row := List.map_inj_left.mp rows position (List.mem_range.mpr (size ▸ insideRows))
    have cell := congrArg (fun row => row[index]?) row
    simpa [Table.rowAt, inside, insideSecond] using cell

private theorem Catalog.eq_of_contents {first second : Catalog} (valid : first.Valid) (validSecond : second.Valid)
    (same : first.contents = second.contents) : first = second := by
  apply eq_of_find?
  intro key
  have under := congrFun same key
  simp only [contents] at under
  cases found : first.find? key with
  | none =>
    rw [found] at under
    exact (Option.map_eq_none_iff.mp under.symm).symm
  | some table =>
    rw [found] at under
    obtain ⟨other, foundSecond, alike⟩ := Option.map_eq_some_iff.mp under.symm
    rw [foundSecond, Table.eq_of_contents (valid_iff.mp valid key table found).2.aligned
      (valid_iff.mp validSecond key other foundSecond).2.aligned alike.symm]

namespace Statement.Edits
variable {statement : Statement} {name : String} {edit : RowTable → Except Error (RowTable × Nat)}
  {outcome : String → Nat → Outcome} {catalog : Catalog} {answer : Outcome}

private theorem run_again (edits : statement.Edits name edit outcome) (valid : catalog.Valid)
    (settles : RowTable.Settles edit) :
    (statement.run (statement.run catalog).2).2 = (statement.run catalog).2 := by
  have once := statement.run_valid valid
  apply Catalog.eq_of_contents (statement.run_valid once) once
  rw [statement.run_contents once, statement.run_contents valid]
  exact edits.step_again settles

private theorem run_eq_ok (edits : statement.Edits name edit outcome) (valid : catalog.Valid)
    (ran : (statement.run catalog).1 = .ok answer) :
    ∃ table after count, catalog.get name = .ok table ∧ edit table.contents = .ok (after, count) ∧
      answer = outcome after.name count := by
  rw [(statement.run_agrees valid).answer] at ran
  obtain ⟨⟨_, database⟩, applied, rfl⟩ := Except.map_eq_ok.mp ran
  obtain ⟨rows, after, count, found, edited, same, _⟩ := edits.apply_eq_ok applied
  obtain ⟨table, present, rfl⟩ := Catalog.get_of_contents found
  exact ⟨table, after, count, present, edited, same⟩

end Statement.Edits

/-- Whatever has been asked of a new engine, an UPDATE or a DELETE that is run twice leaves what it left the first time,
whether or not it fails, the first time or the second. A DELETE that has succeeded succeeds again and takes no row out. -/
theorem Engine.edits_once (requests : List Request) :
    let catalog := performAll requests .empty
    (∀ name assignments filter, let update := Statement.update name assignments filter
      (update.run (update.run catalog).2).2 = (update.run catalog).2) ∧
    ∀ name condition, let delete := Statement.delete name condition
      (delete.run (delete.run catalog).2).2 = (delete.run catalog).2 ∧
      ∀ answer, (delete.run catalog).1 = .ok answer → ∃ table count, answer = .deleted table count ∧
        (delete.run (delete.run catalog).2).1 = .ok (.deleted table 0) := by
  intro catalog
  have valid : catalog.Valid := performAll_valid requests Catalog.empty_valid
  constructor
  · intro name assignments filter
    exact (Statement.update_edits _ _ _).run_again valid (RowTable.update_settles assignments filter)
  · intro name condition delete
    have edits := Statement.delete_edits name condition
    constructor
    · exact edits.run_again valid (RowTable.delete_settles condition)
    · intro answer ran
      obtain ⟨table, after, count, found, edited, rfl⟩ := edits.run_eq_ok valid ran
      obtain ⟨_, changed, foundAgain, rfl⟩ := edits.succeeds valid found edited
      have repeated := (edits.succeeds (delete.run_valid valid) foundAgain (RowTable.delete_again edited)).1
      exact ⟨_, _, rfl, repeated⟩

/-- The second UPDATE fails, since the first has changed the cell that kept it from a comparison between types. -/
theorem Engine.second_update_fails :
    let requests : List Request := [.execute "CREATE TABLE T(A INT, B INT);", .execute "INSERT INTO T VALUES(5, 1);"]
    let first : Condition := .compare "B" .equal ⟨.literal, "1"⟩
    let update := Statement.update "T" [⟨"B", ⟨.literal, "2"⟩⟩] (some (.or first (.compare "A" .equal ⟨.ident, "X"⟩)))
    let delete := Statement.delete "T" first
    let catalog := performAll requests .empty
    (update.run catalog).1 = .ok (.updated "T" 1) ∧
      (update.run (update.run catalog).2).1 = .error (.valueType "INT" "TEXT" "WHERE") ∧
      (update.run (update.run catalog).2).2 = (update.run catalog).2 ∧
      (delete.run catalog).1 = .ok (.deleted "T" 1) ∧ (delete.run (delete.run catalog).2).2 = (delete.run catalog).2 ∧
      (delete.run (delete.run catalog).2).1 = .ok (.deleted "T" 0) := by
  intro requests first update delete catalog
  obtain ⟨changes, fails, deletes⟩ : (update.run catalog).1 = .ok (.updated "T" 1) ∧
      (update.run (update.run catalog).2).1 = .error (.valueType "INT" "TEXT" "WHERE") ∧
      (delete.run catalog).1 = .ok (.deleted "T" 1) := by
    decide +kernel
  obtain ⟨updates, settles⟩ := edits_once requests
  obtain ⟨settled, succeeds⟩ := settles "T" first
  obtain ⟨table, count, same, repeated⟩ := succeeds _ deletes
  cases same
  exact ⟨changes, fails, updates _ _ _, deletes, settled, repeated⟩

end MiniSql

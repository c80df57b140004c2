import MiniSql.Proofs.Except
import MiniSql.Proofs.RowTable

/-! INSERT, UPDATE and DELETE on a stored table do to its rows what they do to a list of rows, with
the same errors, and keep the columns aligned. The changed table is worked out here apart from the one
it is made from. -/

namespace MiniSql.Table

def insert (table : Table) (tokens : List Token) : Except Error Table := do
  if tokens.length ≠ table.columns.length then
    throw (.valueCount table.columns.length tokens.length Keyword.INSERT.text)
  table.append (← typedRow table.columns tokens)

def changeRow (changes : List CellChange) (table : Table) (row : Nat) : Except Error Table :=
  changes.foldlM (fun table change => table.setCell row change.column change.value) table

/-- The changed table and the number of rows that were changed. -/
def update (table : Table) (assignments : List Assignment) (filter : Option Condition) :
    Except Error (Table × Nat) := do
  let changes ← table.cellChanges assignments
  let rows ← table.matching filter
  return (← rows.foldlM (changeRow changes) table, rows.length)

/-- The table without the rows a condition holds for, and the number of those rows. -/
def delete (table : Table) (condition : Condition) : Except Error (Table × Nat) := do
  let rows ← table.matching (some condition)
  return (table.deleteRows rows, rows.length)

@[simp] theorem name_contents (table : Table) : table.contents.name = table.name := rfl
@[simp] theorem columns_contents (table : Table) : table.contents.columns = table.schema := rfl
@[simp] theorem rows_contents (table : Table) : table.contents.rows = table.rows := rfl
@[simp] theorem columnNames_contents (table : Table) : table.contents.columnNames = table.columnNames :=
  table.names_schema

theorem toRelation_contents (table : Table) : table.contents.toRelation = table.toRelation :=
  congrArg (Relation.mk · table.rows) table.columnNames_contents

private theorem typedRow_eq (columns : List Column) (tokens : List Token) :
    typedRow columns tokens =
      ((columns.map Column.declaration).zip tokens).mapM fun entry => entry.1.valueOf .INSERT entry.2 := by
  induction columns generalizing tokens with
  | nil => cases tokens <;> rfl
  | cons column columns ih =>
    cases tokens with
    | nil => rfl
    | cons token tokens =>
      simp only [typedRow, ih, List.map_cons, List.zip_cons_cons, List.mapM_cons]
      rfl

private theorem contents_append {table : Table} {row : Row} (aligned : table.Aligned) (length : row.length = table.columns.length) :
    contents <$> table.append row = .ok { table.contents with rows := table.rows ++ [row] } := by
  obtain ⟨after, done⟩ : ∃ after, table.append row = .ok after := by simp [append, length]
  rw [done]
  change Except.ok after.contents = _
  rw [contents, append_schema done, append_rows aligned done, (append_eq_ok done).2.1]
  rfl

theorem contents_insert {table : Table} (aligned : table.Aligned) (tokens : List Token) :
    contents <$> table.insert tokens = table.contents.insert tokens := by
  by_cases length : tokens.length = table.columns.length
  · simp only [insert, RowTable.insert, RowTable.typedRow, length, columns_contents, length_schema, ne_eq, not_true, if_false]
    rw [typedRow_eq]
    cases typed : (table.schema.zip tokens).mapM fun entry => entry.1.valueOf .INSERT entry.2 with
    | error error => 
      simp only [schema] at typed
      rw [typed]
      rfl
    | ok row =>
      have width : row.length = table.columns.length := by
        simpa [length] using (Except.forall₂_of_mapM typed).length_eq.symm
      simp only [schema] at typed
      rw [typed]
      exact contents_append aligned width
  · simp [insert, RowTable.insert, RowTable.typedRow, length]
    rfl

theorem insert_aligned {table after : Table} {tokens : List Token} (aligned : table.Aligned)
    (done : table.insert tokens = .ok after) : after.Aligned := by
  unfold insert at done
  split at done
  · cases done
  obtain ⟨row, _, done⟩ := Except.bind_eq_ok.mp done
  exact append_aligned aligned done

theorem insert_keeps {table after : Table} {tokens : List Token} (done : table.insert tokens = .ok after) :
    after.name = table.name ∧ after.schema = table.schema := by
  unfold insert at done
  split at done
  · cases done
  obtain ⟨row, _, done⟩ := Except.bind_eq_ok.mp done
  exact ⟨(append_eq_ok done).2.1, append_schema done⟩

/-- Where the marks stand, the first position being `start`. -/
def markedPositions : Nat → List Bool → List Nat
  | _, [] => []
  | start, marked :: marks =>
    if marked then start :: markedPositions (start + 1) marks else markedPositions (start + 1) marks

private theorem length_markedPositions (start : Nat) (marks : List Bool) :
    (markedPositions start marks).length = marks.count true := by
  induction marks generalizing start with
  | nil => rfl
  | cons marked marks ih => cases marked <;> simp [markedPositions, ih]

theorem mem_markedPositions {start position : Nat} {marks : List Bool} :
    position ∈ markedPositions start marks ↔ start ≤ position ∧ marks[position - start]? = some true := by
  induction marks generalizing start with
  | nil => simp [markedPositions]
  | cons marked marks ih =>
    have split : position ∈ markedPositions start (marked :: marks) ↔
        (marked = true ∧ position = start) ∨ position ∈ markedPositions (start + 1) marks := by
      cases marked <;> simp [markedPositions]
    rw [split, ih]
    rcases Nat.lt_trichotomy position start with before | same | after
    · omega
    · subst position
      have later : ¬ start + 1 ≤ start := by omega
      simp only [later, false_and, or_false, and_true, Nat.le_refl, true_and, Nat.sub_self, List.getElem?_cons_zero,
        Option.some.injEq]
    · obtain ⟨offset, rfl⟩ := Nat.exists_eq_add_of_lt after
      have behind : start + offset + 1 - (start + 1) = offset := by omega
      have whole : start + offset + 1 - start = offset + 1 := by omega
      rw [behind, whole, List.getElem?_cons_succ]
      constructor
      · intro holds
        rcases holds with ⟨_, impossible⟩ | ⟨_, found⟩
        · omega
        · exact ⟨by omega, found⟩
      · intro ⟨_, found⟩
        exact Or.inr ⟨by omega, found⟩

theorem markedPositions_ascending (start : Nat) (marks : List Bool) :
    (markedPositions start marks).Pairwise (· < ·) := by
  induction marks generalizing start with
  | nil => exact .nil
  | cons marked marks ih =>
    simp only [markedPositions]
    split
    · refine List.pairwise_cons.mpr ⟨fun position member => ?_, ih (start + 1)⟩
      have := (mem_markedPositions.mp member).1
      omega
    · exact ih (start + 1)

private theorem markedPositions_all (start count : Nat) :
    markedPositions start (List.replicate count true) = List.range' start count := by
  induction count generalizing start with
  | zero => rfl
  | succ count ih => simp [List.replicate_succ, markedPositions, ih, List.range'_succ]

private theorem passing_eq (test : Row → Except Error Bool) (start : Nat) (rows : List Row) :
    passing test start rows = markedPositions start <$> rows.mapM test := by
  induction rows generalizing start with
  | nil => rfl
  | cons row rows ih =>
    simp only [passing, ih, List.mapM_cons]
    cases test row with
    | error error => rfl
    | ok marked => cases marked <;> cases rows.mapM test <;> rfl

theorem matching_eq (table : Table) (filter : Option Condition) :
    table.matching filter = markedPositions 0 <$> table.contents.marks filter := by
  cases filter with
  | none =>
    change Except.ok _ = Except.ok _
    rw [rows_contents, List.map_const', length_rows, markedPositions_all, List.range_eq_range']
  | some condition =>
    simp only [matching, RowTable.marks, passing_eq, name_contents, columnNames_contents, rows_contents]
    cases condition.check table.name table.columnNames <;> rfl

private theorem length_marks {table : RowTable} {filter : Option Condition} {marks : List Bool}
    (done : table.marks filter = .ok marks) : marks.length = table.rows.length := by
  cases filter with
  | none => cases done; simp
  | some condition =>
    obtain ⟨_, _, done⟩ := Except.bind_eq_ok.mp done
    exact (Except.forall₂_of_mapM done).length_eq.symm

private theorem dropPositions_marked {positions : List Nat} (items : List α) (marks : List Bool) (start : Nat)
    (length : marks.length = items.length)
    (listed : ∀ index, start + index ∈ positions ↔ marks[index]? = some true) :
    dropPositions positions start items = ((items.zip marks).filter fun entry => !entry.2).map Prod.fst := by
  induction items generalizing marks start with
  | nil => simp [dropPositions]
  | cons item items ih =>
    obtain ⟨marked, marks, rfl⟩ := List.exists_cons_of_length_eq_add_one length
    have head := listed 0
    have rest := ih marks (start + 1) (by simpa using length) fun index => by
      simpa [Nat.add_assoc, Nat.add_comm 1] using listed (index + 1)
    cases marked <;> simp_all [dropPositions]

theorem contents_delete {table : Table} (aligned : table.Aligned) (condition : Condition) :
    (fun result => (result.1.contents, result.2)) <$> table.delete condition = table.contents.delete condition := by
  simp only [delete, RowTable.delete, matching_eq]
  cases found : table.contents.marks (some condition) with
  | error error => rfl
  | ok marks =>
    have length : marks.length = table.rows.length := length_marks found
    have ascending := markedPositions_ascending 0 marks
    have rows := (deleteRows_spec aligned (ascending.imp Nat.ne_of_lt)).2
    have listed (index : Nat) : 0 + index ∈ markedPositions 0 marks ↔ marks[index]? = some true := by
      simp [mem_markedPositions]
    have kept := dropPositions_marked table.rows marks 0 length listed
    change Except.ok _ = Except.ok _
    simp only [contents, schema_deleteRows, rows, kept, length_markedPositions]
    rfl

theorem delete_keeps {table after : Table} {condition : Condition} {count : Nat}
    (done : table.delete condition = .ok (after, count)) : after.name = table.name ∧ after.schema = table.schema := by
  obtain ⟨positions, _, done⟩ := Except.bind_eq_ok.mp done
  cases done
  exact ⟨rfl, schema_deleteRows table positions⟩

theorem delete_aligned {table after : Table} {condition : Condition} {count : Nat} (aligned : table.Aligned)
    (done : table.delete condition = .ok (after, count)) : after.Aligned := by
  obtain ⟨positions, found, done⟩ := Except.bind_eq_ok.mp done
  rw [matching_eq] at found
  obtain ⟨marks, _, rfl⟩ := Except.map_eq_ok.mp found
  cases done
  exact (deleteRows_spec aligned ((markedPositions_ascending 0 marks).imp Nat.ne_of_lt)).1

private theorem foldl_set_eq_overwrite (changes : List CellChange) (row : Row) :
    changes.foldl (fun row change => row.set change.column change.value) row = RowTable.overwrite changes row := by
  induction changes generalizing row with
  | nil => exact List.ext_getElem (by simp [RowTable.overwrite]) fun index _ _ => by simp [RowTable.overwrite]
  | cons change changes ih =>
    rw [List.foldl_cons, ih]
    apply List.ext_getElem (by simp [RowTable.overwrite])
    intro index inside _
    simp only [RowTable.overwrite, List.getElem_mapIdx, List.reverse_cons, List.find?_append, List.getElem_set]
    cases changes.reverse.find? fun other => other.column == index with
    | some later => simp
    | none => by_cases same : change.column = index <;> simp [same]

private theorem cellChange_eq (table : Table) (assignment : Assignment) :
    table.cellChange assignment = table.contents.cellChange assignment := by
  simp only [cellChange, RowTable.cellChange, columnIndex, name_contents, columnNames_contents, columns_contents, schema,
    List.getElem?_map]
  cases columnPosition table.name table.columnNames assignment.column with
  | error error => rfl
  | ok index =>
    simp only [bind, Except.bind]
    cases table.columns[index]? <;> rfl

theorem cellChanges_eq (table : Table) (assignments : List Assignment) :
    table.cellChanges assignments = assignments.mapM table.contents.cellChange := by
  rw [cellChanges, funext table.cellChange_eq]

theorem cellChange_column {table : RowTable} {assignment : Assignment} {change : CellChange}
    (done : table.cellChange assignment = .ok change) :
    ∃ column, table.columns[change.column]? = some column ∧ change.value.fits column.datatype := by
  obtain ⟨index, _, done⟩ := Except.bind_eq_ok.mp done
  split at done
  next column found =>
    obtain ⟨value, typed, same⟩ := Except.bind_eq_ok.mp done
    cases same
    obtain ⟨value, _, typed⟩ := Except.bind_eq_ok.mp typed
    split at typed
    next fits => cases typed; exact ⟨column, found, fits⟩
    next => cases typed
  next => cases done

/-- What stays the same while cells are changed. -/
structure SameShape (table after : Table) : Prop where
  name : after.name = table.name
  rowCount : after.rowCount = table.rowCount
  schema : after.schema = table.schema
  aligned : after.Aligned

private theorem SameShape.length {table after : Table} (same : table.SameShape after) :
    after.columns.length = table.columns.length := by
  rw [← length_schema, same.schema, length_schema]

private theorem SameShape.trans {table middle after : Table} (first : table.SameShape middle) (second : middle.SameShape after) :
    table.SameShape after :=
  ⟨second.name.trans first.name, second.rowCount.trans first.rowCount, second.schema.trans first.schema, second.aligned⟩

private theorem changeRow_spec (changes : List CellChange) {table : Table} {row : Nat} (aligned : table.Aligned)
    (inside : row < table.rowCount) (columns : ∀ change ∈ changes, change.column < table.columns.length) :
    ∃ after, changeRow changes table row = .ok after ∧ table.SameShape after ∧
      after.rows = table.rows.modify row (RowTable.overwrite changes) := by
  suffices steps : ∃ after, changeRow changes table row = .ok after ∧ table.SameShape after ∧
      after.rows = table.rows.modify row fun cells =>
        changes.foldl (fun cells change => cells.set change.column change.value) cells by
    simpa only [foldl_set_eq_overwrite] using steps
  induction changes generalizing table with
  | nil => exact ⟨table, rfl, ⟨rfl, rfl, rfl, aligned⟩, (List.modify_id row table.rows).symm⟩
  | cons change changes ih =>
    have insideColumns := columns change (by simp)
    have done := setCell_eq_ok change.value aligned inside insideColumns
    obtain ⟨name, rowCount, schema, kept, rows⟩ := setCell_spec aligned inside insideColumns done
    have first : table.SameShape _ := ⟨name, rowCount, schema, kept⟩
    obtain ⟨after, rest, second, final⟩ := ih kept (rowCount ▸ inside) fun other member => by
      rw [first.length]
      exact columns other (by simp [member])
    refine ⟨after, ?_, first.trans second, ?_⟩
    · rw [changeRow, List.foldlM_cons, done]
      exact rest
    · rw [final, rows, List.modify_modify_eq]
      rfl

private theorem changeRows_spec (changes : List CellChange) (positions : List Nat) {table : Table} (aligned : table.Aligned)
    (inside : ∀ position ∈ positions, position < table.rowCount)
    (columns : ∀ change ∈ changes, change.column < table.columns.length) :
    ∃ after, positions.foldlM (changeRow changes) table = .ok after ∧ table.SameShape after ∧
      after.rows = positions.foldl (fun rows position => rows.modify position (RowTable.overwrite changes)) table.rows := by
  induction positions generalizing table with
  | nil => exact ⟨table, rfl, ⟨rfl, rfl, rfl, aligned⟩, rfl⟩
  | cons position positions ih =>
    obtain ⟨middle, done, first, rows⟩ := changeRow_spec changes aligned (inside position (by simp)) columns
    obtain ⟨after, rest, second, final⟩ := ih first.aligned
      (fun other member => first.rowCount ▸ inside other (by simp [member]))
      (fun change member => first.length ▸ columns change member)
    refine ⟨after, ?_, first.trans second, ?_⟩
    · rw [List.foldlM_cons, done]
      exact rest
    · rw [final, rows, List.foldl_cons]

private theorem modify_middle (f : α → α) (front : List α) (item : α) (items : List α) :
    (front ++ item :: items).modify front.length f = front ++ f item :: items := by
  induction front with
  | nil => rfl
  | cons other front ih => simp [ih]

private theorem foldl_modify_marked (f : α → α) (front items : List α) (marks : List Bool) (length : marks.length = items.length) :
    (markedPositions front.length marks).foldl (fun items position => items.modify position f) (front ++ items) =
      front ++ items.zipWith (fun item marked => if marked then f item else item) marks := by
  induction items generalizing front marks with
  | nil => simp_all [markedPositions]
  | cons item items ih =>
    obtain ⟨marked, marks, rfl⟩ := List.exists_cons_of_length_eq_add_one length
    have next := ih (front ++ [if marked then f item else item]) marks (by simpa using length)
    simp only [List.length_append, List.length_singleton, List.append_assoc, List.singleton_append] at next
    rw [List.zipWith_cons_cons, ← next]
    cases marked with
    | false => rfl
    | true => simp [markedPositions, modify_middle]

theorem changes_inside {table : Table} {assignments : List Assignment} {changes : List CellChange}
    (resolved : assignments.mapM table.contents.cellChange = .ok changes) :
    ∀ change ∈ changes, change.column < table.columns.length := by
  intro change member
  obtain ⟨assignment, _, done⟩ := Except.mem_of_mapM resolved member
  obtain ⟨column, present, _⟩ := cellChange_column done
  simpa using (List.getElem?_eq_some_iff.mp present).1

theorem marked_inside {table : Table} {filter : Option Condition} {marks : List Bool}
    (found : table.contents.marks filter = .ok marks) : ∀ position ∈ markedPositions 0 marks, position < table.rowCount := by
  intro position member
  have length : marks.length = table.rows.length := length_marks found
  have marked := (List.getElem?_eq_some_iff.mp (mem_markedPositions.mp member).2).1
  rwa [length, length_rows] at marked

/-- The cells that assignments name exist, so writing the marked rows succeeds. -/
theorem changeRows_resolved {table : Table} {assignments : List Assignment} {filter : Option Condition}
    {changes : List CellChange} {marks : List Bool} (aligned : table.Aligned)
    (resolved : assignments.mapM table.contents.cellChange = .ok changes) (found : table.contents.marks filter = .ok marks) :
    ∃ after, (markedPositions 0 marks).foldlM (changeRow changes) table = .ok after ∧ table.SameShape after ∧
      after.rows = table.rows.zipWith (fun row marked => if marked then RowTable.overwrite changes row else row) marks := by
  obtain ⟨after, written, same, rows⟩ :=
    changeRows_spec changes (markedPositions 0 marks) aligned (marked_inside found) (changes_inside resolved)
  refine ⟨after, written, same, ?_⟩
  rw [rows]
  exact foldl_modify_marked (RowTable.overwrite changes) [] table.rows marks (length_marks found)

private theorem update_resolved {table : Table} {assignments : List Assignment} {filter : Option Condition}
    {changes : List CellChange} {marks : List Bool} (aligned : table.Aligned)
    (resolved : assignments.mapM table.contents.cellChange = .ok changes) (found : table.contents.marks filter = .ok marks) :
    ∃ after, table.update assignments filter = .ok (after, marks.count true) ∧ table.SameShape after ∧
      after.rows = table.rows.zipWith (fun row marked => if marked then RowTable.overwrite changes row else row) marks := by
  obtain ⟨after, written, same, rows⟩ := changeRows_resolved aligned resolved found
  refine ⟨after, ?_, same, rows⟩
  simp only [update, table.cellChanges_eq, matching_eq, resolved, found]
  change ((markedPositions 0 marks).foldlM (changeRow changes) table >>= fun changed =>
    pure (changed, (markedPositions 0 marks).length)) = _
  rw [written, length_markedPositions]
  rfl

theorem contents_update {table : Table} (aligned : table.Aligned) (assignments : List Assignment) (filter : Option Condition) :
    (fun result => (result.1.contents, result.2)) <$> table.update assignments filter =
      table.contents.update assignments filter := by
  cases resolved : assignments.mapM table.contents.cellChange with
  | error error =>
    simp only [update, RowTable.update, table.cellChanges_eq, resolved]
    rfl
  | ok changes =>
    cases found : table.contents.marks filter with
    | error error =>
      simp only [update, RowTable.update, table.cellChanges_eq, matching_eq, resolved, found]
      rfl
    | ok marks =>
      obtain ⟨after, done, same, rows⟩ := update_resolved aligned resolved found
      simp only [RowTable.update, done, resolved, found]
      change Except.ok (after.contents, _) = _
      rw [contents, same.name, same.schema, rows]
      rfl

theorem update_shape {table after : Table} {assignments : List Assignment} {filter : Option Condition} {count : Nat}
    (aligned : table.Aligned) (done : table.update assignments filter = .ok (after, count)) : table.SameShape after := by
  have stages := done
  obtain ⟨changes, resolved, stages⟩ := Except.bind_eq_ok.mp stages
  obtain ⟨positions, found, _⟩ := Except.bind_eq_ok.mp stages
  rw [table.cellChanges_eq] at resolved
  rw [matching_eq] at found
  obtain ⟨marks, found, _⟩ := Except.map_eq_ok.mp found
  obtain ⟨other, updated, same, _⟩ := update_resolved aligned resolved found
  cases done.symm.trans updated
  exact same

end MiniSql.Table

import MiniSql.Proofs.TypeSoundness

/-! The rows that a condition chooses. SELECT, UPDATE and DELETE try a condition on the rows of a table in the same order and
come to the same rows or to the same error. What the two edits do to a row depends on nothing but whether it is chosen. -/

namespace MiniSql

/-- Two lists put together to one, in which the items of each stand in their order. -/
inductive Interleaving {α : Type} : List α → List α → List α → Prop
  | nil : Interleaving [] [] []
  | first {item : α} {one other whole : List α} (rest : Interleaving one other whole) :
    Interleaving (item :: one) other (item :: whole)
  | second {item : α} {one other whole : List α} (rest : Interleaving one other whole) :
    Interleaving one (item :: other) (item :: whole)

private theorem Interleaving.of_filter {α : Type} (test : α → Bool) (items : List α) :
    Interleaving (items.filter test) (items.filter fun item => !test item) items := by
  induction items with
  | nil => exact .nil
  | cons item items ih =>
    cases passed : test item with
    | true =>
      rw [List.filter_cons_of_pos passed, List.filter_cons_of_neg (by simp [passed])]
      exact .first ih
    | false =>
      rw [List.filter_cons_of_neg (by simp [passed]), List.filter_cons_of_pos (by simp [passed])]
      exact .second ih

theorem Relation.keep_eq_mapM (test : Row → Except Error Bool) (rows : List Row) :
    keep test rows = (fun _ => rows.filter fun row => test row = .ok true) <$> rows.mapM test := by
  induction rows with
  | nil => rfl
  | cons row rows ih =>
    simp only [keep, ih, List.mapM_cons, List.filter_cons]
    cases test row with
    | error error => rfl
    | ok passed => cases passed <;> cases rows.mapM test <;> rfl

namespace RowTable
variable {table : RowTable} {filter : Option Condition} {condition : Condition} {marks : List Bool}

/-- The condition holds for the row. Without a condition every row is chosen. -/
def chooses (table : RowTable) : Option Condition → Row → Bool
  | some condition, row => condition.holds table.name table.columnNames row = .ok true
  | none, _ => true

/-- What UPDATE makes of a row. -/
def updated (table : RowTable) (filter : Option Condition) (changes : List Table.CellChange) (row : Row) : Row :=
  if table.chooses filter row then overwrite changes row else row

theorem updated_of_chooses {row : Row} (chosen : table.chooses filter row = true) (changes : List Table.CellChange) :
    table.updated filter changes row = overwrite changes row := if_pos chosen

theorem updated_of_not_chooses {row : Row} (passed : table.chooses filter row = false) (changes : List Table.CellChange) :
    table.updated filter changes row = row := if_neg (Bool.eq_false_iff.mp passed)

private theorem marks_eq_map (found : table.marks filter = .ok marks) : marks = table.rows.map (table.chooses filter) := by
  cases filter with
  | none =>
    cases found
    rfl
  | some condition =>
    obtain ⟨_, _, found⟩ := Except.bind_eq_ok.mp found
    apply Except.eq_map_of_mapM _ found
    intro row passed tested
    simp [chooses, tested]

theorem holds_of_marks (found : table.marks (some condition) = .ok marks) {row : Row} (member : row ∈ table.rows) :
    condition.holds table.name table.columnNames row = .ok (table.chooses (some condition) row) := by
  obtain ⟨_, _, found⟩ := Except.bind_eq_ok.mp found
  obtain ⟨passed, _, tested⟩ := Except.result_of_mapM found member
  simp [chooses, tested]

private theorem count_marks (found : table.marks filter = .ok marks) :
    marks.count true = (table.rows.filter (table.chooses filter)).length := by
  rw [marks_eq_map found, List.count, List.countP_map, List.countP_eq_length_filter]
  simp [Function.comp_def]

private theorem filter_eq_marks (table : RowTable) (condition : Condition) :
    table.toRelation.filter table.name condition =
      (fun _ => ⟨table.columnNames, table.rows.filter (table.chooses (some condition))⟩) <$> table.marks (some condition) := by
  simp only [Relation.filter, marks, toRelation, Relation.keep_eq_mapM]
  cases condition.check table.name table.columnNames with
  | error error => rfl
  | ok _ =>
    simp only [bind, Except.bind]
    cases table.rows.mapM fun row => condition.holds table.name table.columnNames row <;> rfl

theorem delete_eq_marks (table : RowTable) (condition : Condition) :
    table.delete condition =
      (fun _ => ({ table with rows := table.rows.filter fun row => !table.chooses (some condition) row },
        (table.rows.filter (table.chooses (some condition))).length)) <$> table.marks (some condition) := by
  unfold delete
  cases found : table.marks (some condition) with
  | error error => rfl
  | ok marks =>
    have left : ((table.rows.zip marks).filter fun entry => !entry.2).map Prod.fst =
        table.rows.filter fun row => !table.chooses (some condition) row := by
      rw [marks_eq_map found, ← List.map_prod_left_eq_zip, List.filter_map, List.map_map]
      simp [Function.comp_def]
    simp only [bind, Except.bind, left, count_marks found]
    rfl

theorem update_eq_marks {assignments : List Assignment} {changes : List Table.CellChange}
    (resolved : assignments.mapM table.cellChange = .ok changes) (filter : Option Condition) :
    table.update assignments filter =
      (fun _ => ({ table with rows := table.rows.map (table.updated filter changes) },
        (table.rows.filter (table.chooses filter)).length)) <$> table.marks filter := by
  unfold update
  rw [resolved]
  cases found : table.marks filter with
  | error error => rfl
  | ok marks =>
    have written : table.rows.zipWith (fun row marked => if marked then overwrite changes row else row) marks =
        table.rows.map (table.updated filter changes) := by
      rw [marks_eq_map found, List.zipWith_map_right, List.zipWith_self]
      rfl
    simp only [bind, Except.bind, written, count_marks found]
    rfl

end RowTable

theorem Catalog.get_of_contents {catalog : Catalog} {name : String} {rows : RowTable}
    (found : catalog.contents.table name = .ok rows) : ∃ table, catalog.get name = .ok table ∧ table.contents = rows := by
  rw [table_contents] at found
  exact Except.map_eq_ok.mp found

theorem RowDatabase.table_set (database : RowDatabase) (name : String) (table : RowTable) :
    (database.set name (some table)).table name = .ok table := by
  simp [RowDatabase.table, set]

/-- The statement changes the rows of one table and tells how many. -/
def Statement.Edits (statement : Statement) (name : String) (edit : RowTable → Except Error (RowTable × Nat))
    (outcome : String → Nat → Outcome) : Prop :=
  ∀ database : RowDatabase, database.apply statement = do
    let (after, count) ← edit (← database.table name)
    return (outcome after.name count, database.set name (some after))

namespace Statement

theorem update_edits (name : String) (assignments : List Assignment) (filter : Option Condition) :
    (update name assignments filter).Edits name (fun table => table.update assignments filter) .updated := fun _ => rfl

theorem delete_edits (name : String) (condition : Condition) :
    (delete name condition).Edits name (fun table => table.delete condition) .deleted := fun _ => rfl

namespace Edits
variable {statement : Statement} {name : String} {edit : RowTable → Except Error (RowTable × Nat)}
  {outcome : String → Nat → Outcome} {catalog : Catalog} {table : Table} {after : RowTable} {count : Nat}

private theorem fails (edits : statement.Edits name edit outcome) (valid : catalog.Valid) (found : catalog.get name = .ok table)
    {error : Error} (failed : edit table.contents = .error error) : (statement.run catalog).1 = .error error := by
  rw [(statement.run_agrees valid).answer, edits, catalog.table_of_get found]
  simp only [bind, Except.bind, failed]
  rfl

theorem succeeds (edits : statement.Edits name edit outcome) (valid : catalog.Valid) (found : catalog.get name = .ok table)
    (done : edit table.contents = .ok (after, count)) :
    (statement.run catalog).1 = .ok (outcome after.name count) ∧
      ∃ changed, (statement.run catalog).2.get name = .ok changed ∧ changed.contents = after := by
  have applied : catalog.contents.apply statement =
      .ok (outcome after.name count, catalog.contents.set name (some after)) := by
    rw [edits, catalog.table_of_get found]
    simp only [bind, Except.bind, done]
    rfl
  have agrees := statement.run_agrees valid
  have answer := agrees.answer
  have contents := agrees.contents
  rw [applied] at answer contents
  refine ⟨answer, Catalog.get_of_contents ?_⟩
  rw [contents]
  exact catalog.contents.table_set name after

end Edits

end Statement

namespace Engine

def selectWhere (name : String) (condition : Condition) : Statement :=
  .query ⟨⟨name, .all, false, none⟩, some condition, [], none, none⟩

private theorem run_selectWhere {catalog : Catalog} {table : Table} (found : catalog.get table.name = .ok table)
    (condition : Condition) : ((selectWhere table.name condition).run catalog).1 =
      (fun _ => .relation ⟨table.columnNames, table.rows.filter (table.contents.chooses (some condition))⟩) <$>
        table.contents.marks (some condition) := by
  have answer : catalog.contents.answer ⟨⟨table.name, .all, false, none⟩, some condition, [], none, none⟩ =
      table.contents.toRelation.filter table.name condition := by
    simp only [RowDatabase.answer, RowDatabase.source, catalog.table_of_get found, bind, Except.bind]
    change (table.contents.toRelation.filter table.name condition >>= pure) = _
    exact bind_pure _
  have filtered := table.contents.filter_eq_marks condition
  rw [Table.name_contents] at filtered
  rw [selectWhere, Statement.run_query, answer, filtered, Functor.map_map, Table.columnNames_contents, Table.rows_contents]

/-- SELECT, DELETE and UPDATE of a table with the same WHERE agree that these rows are chosen. -/
structure ChoosesAlike (catalog : Catalog) (table : Table) (condition : Condition) (assignments : List Assignment)
    (rows : List Row) : Prop where
  selected : ((selectWhere table.name condition).run catalog).1 = .ok (.relation ⟨table.columnNames, rows⟩)
  holds : ∀ row ∈ rows, condition.holds table.name table.columnNames row = .ok true
  deleted : let ran := (Statement.delete table.name condition).run catalog
    ran.1 = .ok (.deleted table.name rows.length) ∧ ∃ remaining, ran.2.get table.name = .ok remaining ∧
      Interleaving rows remaining.rows table.rows ∧
      ∀ row ∈ remaining.rows, condition.holds table.name table.columnNames row = .ok false
  updated : let ran := (Statement.update table.name assignments (some condition)).run catalog
    ran.1 = .ok (.updated table.name rows.length) ∧ ∃ changed, ran.2.get table.name = .ok changed ∧
      changed.rows.length = table.rows.length ∧
      ∀ (index : Nat) (row : Row), table.rows[index]? = some row →
        condition.holds table.name table.columnNames row ≠ .ok true → changed.rows[index]? = some row

section
variable {catalog : Catalog} {table : Table} {condition : Condition} {marks : List Bool}

private theorem holds_of_marked (marked : table.contents.marks (some condition) = .ok marks) {row : Row} (member : row ∈ table.rows) :
    condition.holds table.name table.columnNames row = .ok (table.contents.chooses (some condition) row) := by
  have tested := RowTable.holds_of_marks marked member
  rwa [Table.name_contents, Table.columnNames_contents] at tested

private theorem delete_leaves_others (valid : catalog.Valid) (found : catalog.get table.name = .ok table)
    (marked : table.contents.marks (some condition) = .ok marks) :
    let chosen := table.rows.filter (table.contents.chooses (some condition))
    let ran := (Statement.delete table.name condition).run catalog
    ran.1 = .ok (.deleted table.name chosen.length) ∧ ∃ remaining, ran.2.get table.name = .ok remaining ∧
      Interleaving chosen remaining.rows table.rows ∧
      ∀ row ∈ remaining.rows, condition.holds table.name table.columnNames row = .ok false := by
  intro chosen ran
  have deletes := table.contents.delete_eq_marks condition
  rw [marked] at deletes
  obtain ⟨counted, remaining, foundRemaining, left⟩ := (Statement.delete_edits _ _).succeeds valid found deletes
  have rowsLeft : remaining.rows = table.rows.filter fun row => !table.contents.chooses (some condition) row :=
    congrArg RowTable.rows left
  refine ⟨counted, remaining, foundRemaining, ?_, ?_⟩
  · rw [rowsLeft]
    exact .of_filter _ _
  · intro row member
    rw [rowsLeft] at member
    obtain ⟨present, passed⟩ := List.mem_filter.mp member
    rw [holds_of_marked marked present]
    simpa using passed

private theorem update_leaves_others {assignments : List Assignment} {changes : List Table.CellChange} (valid : catalog.Valid)
    (found : catalog.get table.name = .ok table) (marked : table.contents.marks (some condition) = .ok marks)
    (resolved : assignments.mapM table.contents.cellChange = .ok changes) :
    let chosen := table.rows.filter (table.contents.chooses (some condition))
    let ran := (Statement.update table.name assignments (some condition)).run catalog
    ran.1 = .ok (.updated table.name chosen.length) ∧ ∃ changed, ran.2.get table.name = .ok changed ∧
      changed.rows.length = table.rows.length ∧
      ∀ (index : Nat) (row : Row), table.rows[index]? = some row →
        condition.holds table.name table.columnNames row ≠ .ok true → changed.rows[index]? = some row := by
  intro chosen ran
  have updates := RowTable.update_eq_marks resolved (some condition)
  rw [marked] at updates
  obtain ⟨counted, changed, foundChanged, written⟩ := (Statement.update_edits _ _ _).succeeds valid found updates
  have rowsChanged : changed.rows = table.rows.map (table.contents.updated (some condition) changes) :=
    congrArg RowTable.rows written
  refine ⟨counted, changed, foundChanged, ?_, ?_⟩
  · rw [rowsChanged, List.length_map]
  · intro index row present unchosen
    rw [holds_of_marked marked (List.mem_of_getElem? present)] at unchosen
    have passed : table.contents.chooses (some condition) row = false :=
      Bool.eq_false_iff.mpr fun chosen => unchosen (congrArg _ chosen)
    rw [rowsChanged, List.getElem?_map, present, Option.map_some, RowTable.updated_of_not_chooses passed]

end

/-- Whatever has been asked of a new engine, SELECT, DELETE and UPDATE with the same WHERE on the same table all fail, with one
error, or all succeed. The rows that SELECT then gives are those for which the condition holds; DELETE and UPDATE report their
number. DELETE takes them out and leaves the others, in order, for none of which the condition holds. UPDATE leaves each of
the others where it is and as it is. -/
theorem where_chooses_alike (requests : List Request) {table : Table} {assignments : List Assignment} (condition : Condition)
    (found : (performAll requests .empty).get table.name = .ok table)
    (assigned : ∀ assignment ∈ assignments, assignment.WellTyped table.schema) :
    let catalog := performAll requests .empty
    (∃ error, ((selectWhere table.name condition).run catalog).1 = .error error ∧
      ((Statement.delete table.name condition).run catalog).1 = .error error ∧
      ((Statement.update table.name assignments (some condition)).run catalog).1 = .error error) ∨
    ∃ rows, ChoosesAlike catalog table condition assignments rows := by
  intro catalog
  have valid : catalog.Valid := performAll_valid requests Catalog.empty_valid
  obtain ⟨changes, resolved, _⟩ := Except.Returns.mapM fun assignment member =>
    table.contents.cellChange_returns (assigned assignment member)
  have selects := run_selectWhere found condition
  cases marked : table.contents.marks (some condition) with
  | error error =>
    have deletes := table.contents.delete_eq_marks condition
    have updates := RowTable.update_eq_marks resolved (some condition)
    rw [marked] at selects deletes updates
    exact .inl ⟨error, selects, (Statement.delete_edits _ _).fails valid found deletes,
      (Statement.update_edits _ _ _).fails valid found updates⟩
  | ok marks =>
    rw [marked] at selects
    have holds : ∀ row ∈ table.rows.filter (table.contents.chooses (some condition)),
        condition.holds table.name table.columnNames row = .ok true := by
      intro row member
      obtain ⟨present, chosen⟩ := List.mem_filter.mp member
      rw [holds_of_marked marked present, chosen]
    exact .inr ⟨_, selects, holds, delete_leaves_others valid found marked, update_leaves_others valid found marked resolved⟩

/-- Two equal rows are chosen, with one between them and one behind that are not. -/
theorem equal_rows_chosen_alike :
    let requests : List Request := [.execute "CREATE TABLE T(A INT);", .execute "INSERT INTO T VALUES(1);",
      .execute "INSERT INTO T VALUES(2);", .execute "INSERT INTO T VALUES(1); INSERT INTO T VALUES(NULL);"]
    let table : Table := ⟨"T", [⟨"A", .int, #[.int 1, .int 2, .int 1, .null]⟩], 4⟩
    let condition : Condition := .compare "A" .equal ⟨.literal, "1"⟩
    let assignments : List Assignment := [⟨"A", ⟨.literal, "2"⟩⟩]
    let catalog := performAll requests .empty
    catalog.get table.name = .ok table ∧ (∀ assignment ∈ assignments, assignment.WellTyped table.schema) ∧
      ChoosesAlike catalog table condition assignments [[.int 1], [.int 1]] := by
  intro requests table condition assignments catalog
  obtain ⟨found, ran⟩ : catalog.get table.name = .ok table ∧
      ((selectWhere table.name condition).run catalog).1 = .ok (.relation ⟨["A"], [[.int 1], [.int 1]]⟩) := by
    decide +kernel
  have assigned : ∀ assignment ∈ assignments, assignment.WellTyped table.schema := by
    intro assignment member
    obtain rfl := List.mem_singleton.mp member
    exact ⟨.int, rfl, .int 2, rfl, rfl⟩
  refine ⟨found, assigned, ?_⟩
  rcases where_chooses_alike requests condition found assigned with ⟨error, failed, _⟩ | ⟨rows, agree⟩
  · cases failed.symm.trans ran
  · cases agree.selected.symm.trans ran
    exact agree

end Engine

end MiniSql

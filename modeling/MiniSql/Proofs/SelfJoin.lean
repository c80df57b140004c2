import MiniSql.Proofs.JoinMeaning
import MiniSql.Proofs.TypeSoundness

/-! A table joined with itself. The columns of both copies have the same qualified names, and a name is looked for from the
left, so that ON speaks about the left copy only: a row whose own two cells are equal is put together with every row, any
other row with none. -/

namespace MiniSql

private theorem qualified_injective (table : String) : Function.Injective fun column : String => table ++ "." ++ column := by
  intro column other same
  have chars := congrArg String.toList same
  simp only [String.toList_append] at chars
  exact String.toList_inj.mp (List.append_cancel_left chars)

namespace Relation
variable {table column : String} {columns : List String}

private theorem idxOf_qualify (table column : String) (columns : List String) :
    (qualify table columns).idxOf (table ++ "." ++ column) = columns.idxOf column := by
  induction columns with
  | nil => rfl
  | cons name names ih =>
    have same : (table ++ "." ++ name == table ++ "." ++ column) = (name == column) := by
      rw [Bool.eq_iff_iff, beq_iff_eq, beq_iff_eq]
      exact (qualified_injective table).eq_iff
    rw [qualify, List.map_cons, List.idxOf_cons, List.idxOf_cons, same, ← qualify, ih]

theorem cell_of_left {others : List String} {row other : Row} (long : row.length = columns.length) (member : column ∈ columns) :
    (row ++ other).cell ((qualify table columns ++ others).idxOf (table ++ "." ++ column)) =
      .ok (row.value columns column) := by
  have qualified : table ++ "." ++ column ∈ qualify table columns := List.mem_map.mpr ⟨column, member, rfl⟩
  have inside : columns.idxOf column < row.length := long ▸ List.idxOf_lt_length_of_mem member
  rw [List.idxOf_append_of_mem qualified, idxOf_qualify, Row.cell_eq_ok, List.getElem?_append_left inside]
  exact Row.cell_eq_ok.mp (Row.cell_of_mem long member)

end Relation

private theorem typeOf?_append_left {columns : List ColumnDef} {name : String} {datatype : Datatype}
    (found : typeOf? columns name = some datatype) (others : List ColumnDef) :
    typeOf? (columns ++ others) name = some datatype := by
  obtain ⟨column, first, rfl⟩ := Option.map_eq_some_iff.mp found
  rw [typeOf?, List.find?_append, first]
  rfl

private theorem typeOf?_qualified (table name : String) (columns : List ColumnDef) :
    typeOf? (qualified table columns) (table ++ "." ++ name) = typeOf? columns name := by
  have same (column : ColumnDef) :
      decide (table ++ "." ++ column.name = table ++ "." ++ name) = decide (column.name = name) :=
    decide_eq_decide.mpr (qualified_injective table).eq_iff
  simp only [typeOf?, qualified, List.find?_map, Function.comp_def, same, Option.map_map]

namespace Query

def selfJoin (kind : JoinKind) (table first second : String) : Query :=
  ⟨⟨table, .all, false, some ⟨kind, table, ⟨table ++ "." ++ first, table ++ "." ++ second⟩⟩⟩, none, [], none, none⟩

variable {catalog : Catalog} {kind : JoinKind} {name first second : String} {table : Table} {datatype : Datatype}

private theorem selfJoin_columns (found : catalog.get name = .ok table) (typed : typeOf? table.schema first = some datatype)
    (typedSecond : typeOf? table.schema second = some datatype) :
    (selfJoin kind name first second).select.HasColumns catalog (joinedColumns name table.schema name table.schema) := by
  have ofLeft {column : String} (typed : typeOf? table.schema column = some datatype) :
      typeOf? (joinedColumns name table.schema name table.schema) (name ++ "." ++ column) = some datatype := by
    rw [← typeOf?_qualified name] at typed
    exact typeOf?_append_left typed _
  have both : (selfJoin kind name first second).select.join =
      some ⟨kind, name, ⟨name ++ "." ++ first, name ++ "." ++ second⟩⟩ := rfl
  exact .join both found found (ofLeft typed) (ofLeft typedSecond)

private theorem selfJoin_answer {source : Relation} (read : catalog.contents.source (selfJoin kind name first second).select = .ok source) :
    catalog.contents.answer (selfJoin kind name first second) = .ok source := by
  simp only [RowDatabase.answer, read, bind, Except.bind]
  rfl

end Query

/-- Over tables that text has built, a join of a table with itself by two columns of one type succeeds. A row of the left
copy is paired with every row of the right copy if the two cells that ON names are equal in the left row itself, and
neither is NULL there; no cell of the right copy is looked at. -/
theorem Engine.self_join_rows (texts : List String) {name first second : String} {table : Table} {datatype : Datatype}
    (kind : JoinKind) (found : (executed texts).get name = .ok table) (typed : typeOf? table.schema first = some datatype)
    (typedSecond : typeOf? table.schema second = some datatype) :
    let names := Relation.qualify name table.columnNames
    let width := table.columnNames.length
    let value (row : Row) (column : String) := row.value table.columnNames column
    ((Statement.query (.selfJoin kind name first second)).run (executed texts)).1 =
      .ok (.relation ⟨names ++ names, kind.combine
        (fun left _ => value left first ≠ .null ∧ value left second ≠ .null ∧ value left first = value left second)
        width width table.rows table.rows⟩) := by
  intro names width value
  have joined := @Query.selfJoin_columns _ kind _ _ _ _ _ found typed typedSecond
  obtain ⟨source, read, _⟩ := Query.source_returns (executed_valid texts) joined
  rw [Statement.run_query, Query.selfJoin_answer read]
  cases Select.source_of_contents read with
  | table single => cases single
  | join both left right joined =>
    cases both
    cases left.symm.trans found
    cases right.symm.trans found
    rw [Relation.join_eq_ok joined]
    have member := table.names_schema ▸ mem_of_typeOf? typed
    have memberSecond := table.names_schema ▸ mem_of_typeOf? typedSecond
    refine congrArg (fun rows => Except.ok (Outcome.relation ⟨names ++ names, rows⟩)) ?_
    refine JoinKind.combine_congr fun left inside right _ => decide_eq_decide.mpr ?_
    have long : left.length = width := table.length_of_mem_rows inside
    exact Relation.matched_iff (Relation.cell_of_left long member) (Relation.cell_of_left long memberSecond)

/-- The row of two equal numbers meets every row, also the one without numbers; the others meet none. -/
theorem Engine.self_join_of_pairs :
    let texts := ["CREATE TABLE T(A INT, B INT);", "INSERT INTO T VALUES(1, 1);", "INSERT INTO T VALUES(2, 1);",
      "INSERT INTO T VALUES(NULL, NULL);"]
    let table : Table := ⟨"T", [⟨"A", .int, #[.int 1, .int 2, .null]⟩, ⟨"B", .int, #[.int 1, .int 1, .null]⟩], 3⟩
    let value (row : Row) (column : String) := row.value ["A", "B"] column
    let rows : List Row := [[.int 1, .int 1], [.int 2, .int 1], [.null, .null]]
    let joined : List Row := [[.int 1, .int 1, .int 1, .int 1], [.int 1, .int 1, .int 2, .int 1],
      [.int 1, .int 1, .null, .null], [.int 2, .int 1, .null, .null], [.null, .null, .null, .null]]
    let paired := JoinKind.left.combine
      (fun left _ => value left "A" ≠ .null ∧ value left "B" ≠ .null ∧ value left "A" = value left "B") 2 2 rows rows
    (executed texts).get "T" = .ok table ∧ typeOf? table.schema "A" = some .int ∧ typeOf? table.schema "B" = some .int ∧
      paired = joined ∧ ((Statement.query (.selfJoin .left "T" "A" "B")).run (executed texts)).1 =
        .ok (.relation ⟨["T.A", "T.B", "T.A", "T.B"], joined⟩) := by
  intro texts table value rows joined paired
  have found : (executed texts).get "T" = .ok table := by decide +kernel
  have same : paired = joined := by decide +kernel
  have answer : ((Statement.query (.selfJoin .left "T" "A" "B")).run (executed texts)).1 =
      .ok (.relation ⟨["T.A", "T.B", "T.A", "T.B"], paired⟩) :=
    @self_join_rows texts "T" "A" "B" table .int .left found rfl rfl
  exact ⟨found, rfl, rfl, same, same ▸ answer⟩

/-- In a table of two rows, each has the number in its first column that the other has in its second. The rows are not found
for each other, as those of two tables would be. -/
theorem Engine.self_join_misses :
    let texts := ["CREATE TABLE T(A INT, B INT);", "INSERT INTO T VALUES(1, 2);", "INSERT INTO T VALUES(2, 1);"]
    let rows : List Row := [[.int 1, .int 2], [.int 2, .int 1]]
    let compared := JoinKind.inner.combine (fun left right => left.value ["A", "B"] "A" ≠ .null ∧
      right.value ["A", "B"] "B" ≠ .null ∧ left.value ["A", "B"] "A" = right.value ["A", "B"] "B") 2 2 rows rows
    (executed texts).get "T" = .ok ⟨"T", [⟨"A", .int, #[.int 1, .int 2]⟩, ⟨"B", .int, #[.int 2, .int 1]⟩], 2⟩ ∧
      compared = [[.int 1, .int 2, .int 2, .int 1], [.int 2, .int 1, .int 1, .int 2]] ∧
      ((Statement.query (.selfJoin .inner "T" "A" "B")).run (executed texts)).1 =
        .ok (.relation ⟨["T.A", "T.B", "T.A", "T.B"], []⟩) := by
  intro texts rows compared
  have built : executed texts =
      Catalog.empty.put "T" ⟨"T", [⟨"A", .int, #[.int 1, .int 2]⟩, ⟨"B", .int, #[.int 2, .int 1]⟩], 2⟩ := by
    decide +kernel
  rw [built]
  exact ⟨by decide +kernel, by decide +kernel, by decide +kernel⟩

end MiniSql

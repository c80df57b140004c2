import MiniSql.Proofs.CatalogInvariant
import MiniSql.Proofs.RowDatabase

/-! The engine does to its catalog what the statements do to a database of row lists. What a catalog
stands for is read off its tables; each statement commutes with that reading. -/

namespace MiniSql

namespace Catalog

def contents (catalog : Catalog) : RowDatabase := fun key => (catalog.find? key).map Table.contents

/-- Under each key the catalog has an aligned table with the rows that the database has there. -/
structure Represents (catalog : Catalog) (database : RowDatabase) : Prop where
  aligned : ∀ key table, catalog.find? key = some table → table.Aligned
  contents : catalog.contents = database

private theorem Valid.represents {catalog : Catalog} (valid : catalog.Valid) : catalog.Represents catalog.contents :=
  ⟨fun key table found => (valid_iff.mp valid key table found).2.aligned, rfl⟩

private theorem contents_put (catalog : Catalog) (name : String) (table : Table) :
    (catalog.put (key name) table).contents = catalog.contents.set name (some table.contents) := by
  funext query
  simp only [contents, find?_put, RowDatabase.set]
  split <;> rfl

private theorem contents_replace (catalog : Catalog) (name : String) (table : Table) :
    (catalog.replace name table).contents = catalog.contents.set name (some table.contents) :=
  catalog.contents_put name table

private theorem contents_erase (catalog : Catalog) (name : String) :
    (catalog.erase (key name)).contents = catalog.contents.set name none := by
  funext query
  simp only [contents, find?_erase, RowDatabase.set]
  split <;> rfl

theorem table_contents (catalog : Catalog) (name : String) :
    catalog.contents.table name = Table.contents <$> catalog.get name := by
  simp only [RowDatabase.table, contents, get, get?]
  cases catalog.find? (key name) <;> rfl

theorem table_of_get (catalog : Catalog) {name : String} {table : Table} (found : catalog.get name = .ok table) :
    catalog.contents.table name = .ok table.contents := by
  rw [table_contents, found]
  rfl

end Catalog

namespace Plan
open Execution RowDatabase Stateful

variable {plan source : Plan} {catalog : Catalog} {result : Except Error Relation}

/-- The plan computes a relation, or fails, and leaves the catalog as it is. -/
def Reads (plan : Plan) (catalog : Catalog) (result : Except Error Relation) : Prop :=
  plan.execute catalog = (Outcome.relation <$> result, catalog)

private theorem reads_scan (name : String) (catalog : Catalog) :
    (scan name).Reads catalog (RowTable.toRelation <$> catalog.contents.table name) := by
  simp only [Reads, execute, bind_run, get_run, lift_run, Catalog.table_contents]
  cases catalog.get name with
  | error error => rfl
  | ok table =>
    simp only [Functor.map, Except.map, RowTable.toRelation, Table.columnNames_contents, Table.rows_contents]
    rfl

private theorem Reads.onRows {operation : Relation → Except Error Relation} (reads : source.Reads catalog result)
    (same : plan.execute = Execution.onRows source.execute operation) : plan.Reads catalog (result >>= operation) := by
  rw [Reads, same, onRows_run, reads]
  cases result <;> rfl

private theorem Reads.join {left right : Plan} {leftRows rightRows : Except Error Relation} (readsLeft : left.Reads catalog leftRows)
    (readsRight : right.Reads catalog rightRows) (kind : JoinKind) (leftTable rightTable : String) (on : JoinCondition) :
    (join kind left leftTable right rightTable on).Reads catalog (leftRows >>= fun first =>
      rightRows >>= fun second => Relation.join kind leftTable first rightTable second on) := by
  simp only [Reads, execute, bind_run, lift_run]
  rw [readsLeft]
  cases leftRows with
  | error error => rfl
  | ok first =>
    simp only [Functor.map, Except.map, Outcome.toRelation]
    rw [readsRight]
    cases rightRows with
    | error error => rfl
    | ok second =>
      simp only [Functor.map, Except.map, bind, Except.bind]
      cases Relation.join kind leftTable first rightTable second on <;> rfl

theorem reads_source (select : Select) (catalog : Catalog) :
    (ofSource select).Reads catalog (catalog.contents.source select) := by
  have own := reads_scan select.table catalog
  unfold ofSource RowDatabase.source
  cases select.join with
  | none =>
    rw [← map_eq_pure_bind]
    exact own
  | some join =>
    have joined := own.join (reads_scan join.table catalog) join.kind select.table join.table join.on
    simpa only [bind_map_left] using joined

theorem reads_filter (condition : Option Condition) (table : String) (reads : source.Reads catalog result) :
    (match condition with
      | some condition => filter source table condition
      | none => source).Reads catalog (result >>= fun rows => keep table rows condition) := by
  cases condition with
  | none =>
    rw [show (result >>= fun rows => keep table rows none) = result from bind_pure result]
    exact reads
  | some condition => exact reads.onRows (execute_filter source table condition)

private theorem reads_sort (keys : List SortKey) (table : String) (reads : source.Reads catalog result) :
    (if keys.isEmpty then source else sort source table keys).Reads catalog
      (result >>= fun rows => order table rows keys) := by
  unfold order
  split
  · rw [show (result >>= fun rows => .ok rows) = result from bind_pure result]
    exact reads
  · exact reads.onRows (execute_sort source table keys)

theorem ofProjection_reads (projection : Projection) (table : String) (reads : source.Reads catalog result) :
    match ofProjection source table projection with
    | .ok plan => checkProjection projection = .ok () ∧
        plan.Reads catalog (result >>= fun rows => choose table rows projection)
    | .error error => checkProjection projection = .error error := by
  cases projection with
  | all =>
    refine ⟨rfl, ?_⟩
    rw [show (result >>= fun rows => choose table rows .all) = result from bind_pure result]
    exact reads
  | items items =>
    simp only [ofProjection, checkProjection, choose]
    cases items.filterMap column? <;> cases items.filterMap term?
    next => exact ⟨rfl, reads.onRows (execute_project source table [])⟩
    next => exact ⟨rfl, reads.onRows (execute_aggregate source table _)⟩
    next => exact ⟨rfl, reads.onRows (execute_project source table _)⟩
    next => rfl

theorem reads_offset (count : Option Nat) (reads : source.Reads catalog result) :
    (match count with
      | some count => offset source count
      | none => source).Reads catalog (result >>= fun rows => pure (rows.offset (count.getD 0))) := by
  cases count with
  | none =>
    rw [show (result >>= fun rows => pure (rows.offset (none.getD 0))) = result from bind_pure result]
    exact reads
  | some count => exact reads.onRows (execute_offset source count)

private theorem reads_limit (count : Option Nat) (reads : source.Reads catalog result) :
    (match count with
      | some count => limit source count
      | none => source).Reads catalog (result >>= fun rows => pure (first rows count)) := by
  cases count with
  | none =>
    rw [show (result >>= fun rows => pure (first rows none)) = result from bind_pure result]
    exact reads
  | some count => exact reads.onRows (execute_limit source count)

private theorem reads_distinct (wanted : Bool) (reads : source.Reads catalog result) :
    (if wanted then distinct source else source).Reads catalog
      (result >>= fun rows => pure (if wanted then rows.distinct else rows)) := by
  cases wanted with
  | false =>
    rw [show (result >>= fun rows => pure (if false then rows.distinct else rows)) = result from bind_pure result]
    exact reads
  | true => exact reads.onRows (execute_distinct source)

/-- A query plan computes what the database answers. -/
theorem ofQuery_reads (query : Query) (catalog : Catalog) :
    match ofQuery query with
    | .ok plan => plan.Reads catalog (catalog.contents.answer query)
    | .error error => catalog.contents.answer query = .error error := by
  have read := reads_source query.select catalog
  have sorted := reads_sort query.order query.select.table (reads_filter query.filter query.select.table read)
  have projected := ofProjection_reads query.select.projection query.select.table sorted
  simp only [ofQuery, answer]
  generalize ofProjection _ _ _ = planned at projected ⊢
  cases planned with
  | error error =>
    simp only at projected
    rw [projected]
    rfl
  | ok plan =>
    obtain ⟨accepted, projected⟩ := projected
    have windowed := reads_limit query.limit (reads_offset query.offset projected)
    have answered := reads_distinct query.select.distinct windowed
    rw [accepted]
    simp only [bind_assoc, pure_bind] at answered
    exact answered

end Plan

/-- What a run did to a catalog is what was to be done to the database the catalog stands for; a
failing run did nothing. -/
def Agrees (catalog : Catalog) (ran : Except Error Outcome × Catalog) (wanted : Except Error (Outcome × RowDatabase)) :
    Prop :=
  match ran with
  | (.ok outcome, after) => wanted = .ok (outcome, after.contents)
  | (.error error, after) => wanted = .error error ∧ after = catalog

namespace Agrees

variable {catalog : Catalog} {ran : Except Error Outcome × Catalog} {wanted : Except Error (Outcome × RowDatabase)}

theorem answer (agrees : Agrees catalog ran wanted) : ran.1 = Prod.fst <$> wanted := by
  rcases ran with ⟨error | outcome, after⟩
  · rw [agrees.1]; rfl
  · rw [show wanted = _ from agrees]; rfl

theorem contents : Agrees catalog ran wanted →
    ran.2.contents = match wanted with
      | .ok (_, after) => after
      | .error _ => catalog.contents := by
  intro agrees
  rcases ran with ⟨error | outcome, after⟩
  · rw [agrees.1, show after = catalog from agrees.2]
  · rw [show wanted = _ from agrees]

theorem unchanged (agrees : Agrees catalog ran wanted) {error : Error} (failed : ran.1 = .error error) :
    ran.2 = catalog := by
  rcases ran with ⟨_ | outcome, after⟩
  · exact agrees.2
  · cases failed

end Agrees

namespace Statement
open RowDatabase

private theorem createTable_agrees (name : String) (columns : List ColumnDef) (catalog : Catalog) :
    Agrees catalog ((createTable name columns).run catalog) (catalog.contents.apply (createTable name columns)) := by
  simp only [run, Plan.ofStatement, Table.declare, apply]
  cases firstRepeated [] (columns.map ColumnDef.name) with
  | some column => exact ⟨rfl, rfl⟩
  | none =>
    change Agrees catalog ((Plan.createTable _).run catalog) _
    rw [Plan.run_createTable]
    simp only [Catalog.create, Catalog.get?, Catalog.contents]
    cases catalog.find? (Catalog.key name) with
    | some table => exact ⟨rfl, rfl⟩
    | none =>
      simp only [Agrees, Catalog.contents_put, Option.map_none]
      simp [Table.contents, Table.schema, Table.rows, Column.declaration, Function.comp_def]

private theorem dropTable_agrees (name : String) (catalog : Catalog) :
    Agrees catalog ((dropTable name).run catalog) (catalog.contents.apply (dropTable name)) := by
  change Agrees catalog ((Plan.dropTable name).run catalog) _
  rw [Plan.run_dropTable]
  simp only [Catalog.drop, Catalog.get?, apply, table, Catalog.contents]
  cases catalog.find? (Catalog.key name) with
  | none => exact ⟨rfl, rfl⟩
  | some table =>
    simp only [Agrees, Catalog.contents_erase]
    rfl

private theorem insert_agrees (name : String) (tokens : List Token) {catalog : Catalog} (valid : catalog.Valid) :
    Agrees catalog ((insert name tokens).run catalog) (catalog.contents.apply (insert name tokens)) := by
  change Agrees catalog ((Plan.insert name tokens).run catalog) _
  rw [Plan.run_insert]
  simp only [apply, Catalog.table_contents, bind_map_left]
  cases found : catalog.get name with
  | error error => exact ⟨rfl, rfl⟩
  | ok table =>
    have commutes := Table.contents_insert (Catalog.get_valid valid found).2.aligned tokens
    simp only [bind, Except.bind, ← commutes]
    cases table.insert tokens with
    | error error => exact ⟨rfl, rfl⟩
    | ok after =>
      simp only [Agrees, Catalog.contents_replace]
      rfl

theorem change_agrees (name : String) (change : Table → Except Error (Table × Nat))
    (changeRows : RowTable → Except Error (RowTable × Nat)) (outcome : String → Nat → Outcome) {catalog : Catalog}
    (valid : catalog.Valid) (commutes : ∀ table : Table, table.Aligned →
      (fun result => (result.1.contents, result.2)) <$> change table = changeRows table.contents) :
    Agrees catalog
      (match catalog.get name >>= change with
        | .ok (after, count) => (.ok (outcome after.name count), catalog.replace name after)
        | .error error => (.error error, catalog))
      (do
        let (after, count) ← changeRows (← catalog.contents.table name)
        return (outcome after.name count, catalog.contents.set name (some after))) := by
  rw [Catalog.table_contents, bind_map_left]
  cases found : catalog.get name with
  | error error => exact ⟨rfl, rfl⟩
  | ok table =>
    simp only [bind, Except.bind, ← commutes table (Catalog.get_valid valid found).2.aligned]
    cases change table with
    | error error => exact ⟨rfl, rfl⟩
    | ok result =>
      simp only [Agrees, Catalog.contents_replace]
      rfl

theorem run_query (query : Query) (catalog : Catalog) :
    (Statement.query query).run catalog = (Outcome.relation <$> catalog.contents.answer query, catalog) := by
  have reads := Plan.ofQuery_reads query catalog
  simp only [run, Plan.ofStatement]
  cases planned : Plan.ofQuery query with
  | error error =>
    rw [planned] at reads
    simp only at reads
    rw [reads]
    rfl
  | ok plan =>
    rw [planned] at reads
    exact reads

private theorem query_agrees (query : Query) (catalog : Catalog) :
    Agrees catalog ((Statement.query query).run catalog) (catalog.contents.apply (.query query)) := by
  rw [run_query, apply]
  cases catalog.contents.answer query with
  | error error => exact ⟨rfl, rfl⟩
  | ok rows => rfl

/-- One step of the engine is one step of the database of row lists. -/
theorem run_agrees (statement : Statement) {catalog : Catalog} (valid : catalog.Valid) :
    Agrees catalog (statement.run catalog) (catalog.contents.apply statement) := by
  cases statement with
  | createTable name columns => exact createTable_agrees name columns catalog
  | dropTable name => exact dropTable_agrees name catalog
  | insert name tokens => exact insert_agrees name tokens valid
  | query query => exact query_agrees query catalog
  | update name assignments filter =>
    change Agrees catalog ((Plan.update name assignments filter).run catalog) _
    rw [Plan.run_update name assignments filter fun table found => (Catalog.get_valid valid found).2.aligned]
    exact change_agrees name _ _ .updated valid fun table aligned => Table.contents_update aligned assignments filter
  | delete name condition =>
    change Agrees catalog ((Plan.delete name condition).run catalog) _
    rw [Plan.run_delete]
    exact change_agrees name _ _ .deleted valid fun table aligned => Table.contents_delete aligned condition

theorem run_contents (statement : Statement) {catalog : Catalog} (valid : catalog.Valid) :
    (statement.run catalog).2.contents = catalog.contents.step statement :=
  (statement.run_agrees valid).contents

end Statement

namespace Engine

/-- The catalog behind a list of statements, each of which may have failed. -/
def after (statements : List Statement) : Catalog :=
  statements.foldl (fun catalog statement => (statement.run catalog).2) .empty

private theorem after_valid (statements : List Statement) : (after statements).Valid :=
  List.foldlRecOn statements _ Catalog.empty_valid fun _ valid statement _ => statement.run_valid valid

private theorem contents_after (statements : List Statement) : (after statements).contents = RowDatabase.after statements := by
  suffices runs : ∀ catalog : Catalog, catalog.Valid →
      (statements.foldl (fun catalog statement => (statement.run catalog).2) catalog).contents =
        statements.foldl RowDatabase.step catalog.contents from runs .empty Catalog.empty_valid
  induction statements with
  | nil => intro catalog valid; rfl
  | cons statement statements ih =>
    intro catalog valid
    rw [List.foldl_cons, List.foldl_cons, ih _ (statement.run_valid valid), statement.run_contents valid]

theorem runStatements_contents (statements : List Statement) {catalog : Catalog} (valid : catalog.Valid) :
    (fun ran => (ran.1, ran.2.contents)) (runStatements statements catalog) =
      RowDatabase.run statements catalog.contents := by
  induction statements generalizing catalog with
  | nil => rfl
  | cons statement statements ih =>
    have agrees := statement.run_agrees valid
    have kept := statement.run_valid valid
    unfold runStatements RowDatabase.run
    generalize statement.run catalog = ran at agrees kept
    rcases ran with ⟨error | outcome, after⟩
    · rw [agrees.1, show after = catalog from agrees.2]
    · rw [show catalog.contents.apply statement = _ from agrees]
      simp only [← ih kept]

def selectAll (name : String) : Statement := .query ⟨⟨name, .all, false, none⟩, none, [], none, none⟩

private theorem apply_selectAll (database : RowDatabase) (name : String) :
    Prod.fst <$> database.apply (selectAll name) =
      (fun table => Outcome.relation ⟨table.columnNames, table.rows⟩) <$> database.table name := by
  simp only [RowDatabase.apply, selectAll, RowDatabase.answer, RowDatabase.checkProjection, RowDatabase.source]
  cases database.table name <;> rfl

/-- Whatever has been run on a new engine, its catalog stands for the database behind the same statements
on row lists. The next statement has the same answer on both, an error included, and what it leaves is
again the same; if it fails it leaves the catalog as it was. A batch stops at the same statement on both.
Reading a whole table gives its rows in the order of the list. -/
theorem refines_rows (earlier : List Statement) :
    (after earlier).Represents (RowDatabase.after earlier) ∧
      (∀ statement : Statement,
        (statement.run (after earlier)).1 = Prod.fst <$> (RowDatabase.after earlier).apply statement ∧
        (statement.run (after earlier)).2.Represents ((RowDatabase.after earlier).step statement) ∧
        ∀ error, (statement.run (after earlier)).1 = .error error → (statement.run (after earlier)).2 = after earlier) ∧
      (∀ batch : List Statement,
        (runStatements batch (after earlier)).1 = (RowDatabase.run batch (RowDatabase.after earlier)).1 ∧
        (runStatements batch (after earlier)).2.Represents (RowDatabase.run batch (RowDatabase.after earlier)).2) ∧
      ∀ name : String, ((selectAll name).run (after earlier)).1 =
        (fun table => Outcome.relation ⟨table.columnNames, table.rows⟩) <$> (RowDatabase.after earlier).table name := by
  have valid := after_valid earlier
  rw [← contents_after]
  refine ⟨valid.represents, fun statement => ?_, fun batch => ?_, fun name => ?_⟩
  · have agrees := statement.run_agrees valid
    refine ⟨agrees.answer, ?_, fun error failed => agrees.unchanged failed⟩
    rw [← statement.run_contents valid]
    exact (statement.run_valid valid).represents
  · rw [← runStatements_contents batch valid]
    exact ⟨rfl, (runStatements_valid batch valid).represents⟩
  · rw [((selectAll name).run_agrees valid).answer, apply_selectAll]

/-- One row is refused for its length, one is changed twice by one statement, and one is taken out. -/
theorem edited_rows_read :
    let earlier : List Statement := [.createTable "T" [⟨"A", .int⟩, ⟨"B", .text⟩],
      .insert "T" [⟨.literal, "012"⟩, ⟨.ident, "X"⟩], .insert "T" [⟨.keyword .NULL, "NULL"⟩, ⟨.ident, "Y"⟩],
      .insert "T" [⟨.literal, "3"⟩], .insert "T" [⟨.literal, "4"⟩, ⟨.keyword .NULL, "NULL"⟩],
      .update "T" [⟨"A", ⟨.literal, "5"⟩⟩, ⟨"A", ⟨.literal, "7"⟩⟩] (some (.compare "B" .equal ⟨.ident, "Y"⟩)),
      .delete "T" (.compare "A" .equal ⟨.literal, "4"⟩)]
    (after earlier).Represents (RowDatabase.after earlier) ∧
      RowDatabase.after earlier "T" = some ⟨"T", [⟨"A", .int⟩, ⟨"B", .text⟩], [[.int 12, .text "X"], [.int 7, .text "Y"]]⟩ ∧
      ((selectAll "T").run (after earlier)).1 =
        .ok (.relation ⟨["A", "B"], [[.int 12, .text "X"], [.int 7, .text "Y"]]⟩) := by
  intro earlier
  obtain ⟨represents, _, _, whole⟩ := refines_rows earlier
  have rows : RowDatabase.after earlier "T" =
      some ⟨"T", [⟨"A", .int⟩, ⟨"B", .text⟩], [[.int 12, .text "X"], [.int 7, .text "Y"]]⟩ := by decide +kernel
  have table : (RowDatabase.after earlier).table "T" =
      .ok ⟨"T", [⟨"A", .int⟩, ⟨"B", .text⟩], [[.int 12, .text "X"], [.int 7, .text "Y"]]⟩ := by
    rw [RowDatabase.table, show Catalog.key "T" = "T" by decide +kernel, rows]
  refine ⟨represents, rows, ?_⟩
  rw [whole, table]
  rfl

end Engine

end MiniSql

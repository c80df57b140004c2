import MiniSql.Proofs.StatementEffect

/-! Independent statements commute. What a statement gives, and what it leaves under the names that it mentions,
depends on nothing but what is under these names, and it leaves all other names alone. -/

namespace MiniSql

namespace Catalog

/-- The catalog with this table, or none, under a name. -/
def store (catalog : Catalog) (name : String) : Option Table → Catalog
  | some table => catalog.put (key name) table
  | none => catalog.erase (key name)

private theorem find?_store (catalog : Catalog) (name query : String) (entry : Option Table) :
    (catalog.store name entry).find? query = if query = key name then entry else catalog.find? query := by
  cases entry with
  | some table => exact catalog.find?_put (key name) query table
  | none => exact catalog.find?_erase (key name) query

def Agree (keys : List String) (first second : Catalog) : Prop := ∀ key ∈ keys, first.find? key = second.find? key

end Catalog

namespace Statement

/-- The tables that a statement mentions. -/
def tables : Statement → List String
  | createTable table _ => [table]
  | dropTable table => [table]
  | insert table _ => [table]
  | query question => question.select.table :: (question.select.join.map Join.table).toList
  | update table _ _ => [table]
  | delete table _ => [table]

/-- The keys under which it finds them. -/
def keys (statement : Statement) : List String := statement.tables.map Catalog.key

end Statement

namespace RowDatabase
variable {first second : RowDatabase}

private theorem table_congr {name : String} (same : first (Catalog.key name) = second (Catalog.key name)) :
    first.table name = second.table name := by
  rw [table, table, same]

theorem answer_congr {question : Query} (same : ∀ key ∈ (Statement.query question).keys, first key = second key) :
    first.answer question = second.answer question := by
  have own : first.table question.select.table = second.table question.select.table :=
    table_congr (same _ List.mem_cons_self)
  have source : first.source question.select = second.source question.select := by
    unfold RowDatabase.source
    rw [own]
    cases both : question.select.join with
    | none => rfl
    | some join =>
      have mentioned : Catalog.key join.table ∈ (Statement.query question).keys := by
        simp [Statement.keys, Statement.tables, both]
      simp only [table_congr (same _ mentioned)]
  unfold answer
  rw [source]

end RowDatabase

namespace Statement
variable {statement : Statement} {name : String} {catalog first second : Catalog}

/-- What a statement does that is about one table: it puts something in the place of what is there, or fails. -/
def Changes (statement : Statement) (name : String) (change : Option Table → Except Error (Outcome × Option Table)) : Prop :=
  ∀ catalog : Catalog, catalog.Valid → statement.run catalog = match change (catalog.get? name) with
    | .ok (outcome, entry) => (.ok outcome, catalog.store name entry)
    | .error error => (.error error, catalog)

theorem exists_changes_of_edit {edit : Table → Except Error (Outcome × Table)}
    (runs : ∀ catalog : Catalog, catalog.Valid → statement.run catalog = match catalog.get name >>= edit with
      | .ok (outcome, after) => (.ok outcome, catalog.replace name after)
      | .error error => (.error error, catalog)) : ∃ change, statement.Changes name change := by
  refine ⟨fun present => match present with
    | some table => (fun result => (result.1, some result.2)) <$> edit table
    | none => .error (.unknownTable name), fun catalog valid => ?_⟩
  rw [runs catalog valid, Catalog.get]
  cases catalog.get? name with
  | none => rfl
  | some table =>
    simp only [bind, Except.bind]
    cases edit table <;> rfl

/-- A statement that is no query changes what is under one name. -/
theorem query_or_changes (statement : Statement) :
    (∃ question, statement = query question) ∨
      ∃ name, statement.keys = [Catalog.key name] ∧ ∃ change, statement.Changes name change := by
  cases statement with
  | query question => exact .inl ⟨question, rfl⟩
  | createTable name columns =>
    refine .inr ⟨name, rfl, fun present => Table.declare name columns >>= fun table => match present with
      | some _ => .error (.tableExists name)
      | none => .ok (.created name, some table), fun catalog valid => ?_⟩
    simp only [run, Plan.ofStatement]
    cases declared : Table.declare name columns with
    | error error => rfl
    | ok table =>
      change (Plan.createTable table).run catalog = _
      rw [Plan.run_createTable, Catalog.create, Table.name_declare declared]
      simp only [bind, Except.bind]
      cases catalog.get? name <;> rfl
  | dropTable name =>
    refine .inr ⟨name, rfl, fun present => match present with
      | some table => .ok (.dropped table.name, none)
      | none => .error (.unknownTable name), fun catalog valid => ?_⟩
    change (Plan.dropTable name).run catalog = _
    rw [Plan.run_dropTable, Catalog.drop]
    cases catalog.get? name <;> rfl
  | insert name tokens =>
    refine .inr ⟨name, rfl, @exists_changes_of_edit _ name (fun table =>
      (fun after => (.inserted after.name, after)) <$> table.insert tokens) fun catalog valid => ?_⟩
    change (Plan.insert name tokens).run catalog = _
    rw [Plan.run_insert, ← map_bind]
    cases catalog.get name >>= fun table => table.insert tokens <;> rfl
  | update name assignments filter =>
    refine .inr ⟨name, rfl, @exists_changes_of_edit _ name (fun table =>
      (fun result => (.updated result.1.name result.2, result.1)) <$> table.update assignments filter) fun catalog valid => ?_⟩
    change (Plan.update name assignments filter).run catalog = _
    rw [Plan.run_update name assignments filter fun table found => (Catalog.get_valid valid found).2.aligned, ← map_bind]
    cases catalog.get name >>= fun table => table.update assignments filter <;> rfl
  | delete name condition =>
    refine .inr ⟨name, rfl, @exists_changes_of_edit _ name (fun table =>
      (fun result => (.deleted result.1.name result.2, result.1)) <$> table.delete condition) fun catalog valid => ?_⟩
    change (Plan.delete name condition).run catalog = _
    rw [Plan.run_delete, ← map_bind]
    cases catalog.get name >>= fun table => table.delete condition <;> rfl

/-- On two catalogs that agree under the keys of a statement it gives the same, and they agree under these behind it. -/
theorem run_local (valid : first.Valid) (validSecond : second.Valid) (agree : first.Agree statement.keys second) :
    (statement.run first).1 = (statement.run second).1 ∧
      (statement.run first).2.Agree statement.keys (statement.run second).2 := by
  rcases statement.query_or_changes with ⟨question, rfl⟩ | ⟨name, keys, change, changes⟩
  · have answers : first.contents.answer question = second.contents.answer question :=
      RowDatabase.answer_congr fun key member => congrArg (Option.map Table.contents) (agree key member)
    rw [run_query, run_query, answers]
    exact ⟨rfl, agree⟩
  · rw [keys] at agree ⊢
    have same : first.get? name = second.get? name := agree _ (List.mem_singleton_self _)
    rw [changes first valid, changes second validSecond, same]
    cases change (second.get? name) with
    | error error => exact ⟨rfl, agree⟩
    | ok result =>
      refine ⟨rfl, List.forall_mem_singleton.mpr ?_⟩
      rw [Catalog.find?_store, Catalog.find?_store, if_pos rfl, if_pos rfl]

private theorem run_elsewhere (valid : catalog.Valid) {key : String} (other : key ∉ statement.keys) :
    (statement.run catalog).2.find? key = catalog.find? key := by
  rcases statement.query_or_changes with ⟨question, rfl⟩ | ⟨name, keys, change, changes⟩
  · rw [run_query]
  · rw [keys, List.mem_singleton] at other
    rw [changes catalog valid]
    cases change (catalog.get? name) with
    | error error => rfl
    | ok result => rw [Catalog.find?_store, if_neg other]

private theorem run_behind {other : Statement} (valid : catalog.Valid) (apart : statement.keys.Disjoint other.keys) :
    (statement.run (other.run catalog).2).1 = (statement.run catalog).1 ∧
      ∀ key ∈ statement.keys, (statement.run (other.run catalog).2).2.find? key = (statement.run catalog).2.find? key :=
  run_local (other.run_valid valid) valid fun _ member => run_elsewhere valid (apart member)

end Statement

/-- Whatever an engine has been asked before, two statements that have no table in common give the same results or
errors in both orders, and leave the same catalog. -/
theorem Engine.independent_commute (requests : List Request) (first second : Statement)
    (apart : first.keys.Disjoint second.keys) :
    let catalog := performAll requests .empty
    (first.run (second.run catalog).2).1 = (first.run catalog).1 ∧
      (second.run (first.run catalog).2).1 = (second.run catalog).1 ∧
      (second.run (first.run catalog).2).2 = (first.run (second.run catalog).2).2 := by
  intro catalog
  have valid : catalog.Valid := performAll_valid requests Catalog.empty_valid
  obtain ⟨firstSame, firstLeft⟩ := Statement.run_behind valid apart
  obtain ⟨secondSame, secondLeft⟩ := Statement.run_behind valid (List.disjoint_symm apart)
  refine ⟨firstSame, secondSame, Catalog.eq_of_find? fun key => ?_⟩
  by_cases own : key ∈ first.keys
  · rw [firstLeft key own, Statement.run_elsewhere (first.run_valid valid) (apart own)]
  · rw [Statement.run_elsewhere (second.run_valid valid) own]
    by_cases other : key ∈ second.keys
    · exact secondLeft key other
    · rw [Statement.run_elsewhere (first.run_valid valid) other, Statement.run_elsewhere valid own,
        Statement.run_elsewhere valid other]

/-- A statement that drops a table, and a join of another table with itself. -/
theorem Engine.drop_beside_join :
    let requests : List Request := [.execute "CREATE TABLE T(A INT);", .execute "CREATE TABLE U(B INT);",
      .execute "INSERT INTO U VALUES(1);"]
    let catalog := performAll requests .empty
    let drop : Statement := .dropTable "t"
    let join : Statement := .query ⟨⟨"U", .all, false, some ⟨.left, "u", ⟨"U.B", "u.B"⟩⟩⟩, none, [], none, none⟩
    drop.keys.Disjoint join.keys ∧ (drop.run (join.run catalog).2).1 = .ok (.dropped "T") ∧
      (join.run (drop.run catalog).2).1 = .ok (.relation ⟨["U.B", "u.B"], [[.int 1, .int 1]]⟩) ∧
      (join.run (drop.run catalog).2).2 = (drop.run (join.run catalog).2).2 := by
  intro requests catalog drop join
  have apart : drop.keys.Disjoint join.keys := List.disjoint_left.mpr (by decide +kernel)
  obtain ⟨dropped, joined, same⟩ := independent_commute requests drop join apart
  obtain ⟨drops, joins⟩ : (drop.run catalog).1 = .ok (.dropped "T") ∧
      (join.run catalog).1 = .ok (.relation ⟨["U.B", "u.B"], [[.int 1, .int 1]]⟩) := by
    decide +kernel
  exact ⟨apart, dropped.trans drops, joined.trans joins, same⟩

end MiniSql

import MiniSql.Plan.Run
import MiniSql.Proofs.TableEdit

/-! What running a plan amounts to. Four operations change a catalog, each in one place and only when
they succeed; the others compute a relation from the relations below them. -/

namespace MiniSql

namespace Catalog

theorem get_eq_ok {catalog : Catalog} {name : String} {table : Table} :
    catalog.get name = .ok table ↔ catalog.find? (key name) = some table := by
  unfold get get?
  cases catalog.find? (key name) <;> simp

private theorem replace_found {catalog : Catalog} {name : String} {table : Table} (found : catalog.get name = .ok table) :
    catalog.replace name table = catalog := by
  apply eq_of_find?
  intro query
  rw [replace, find?_put]
  split
  next same => rw [same, get_eq_ok.mp found]
  next => rfl

end Catalog

namespace Execution
open Stateful

/-- An operation on the rows that another operation gives. -/
def onRows (source : Execution Outcome) (operation : Relation → Except Error Relation) : Execution Outcome := do
  let rows ← (← source).toRelation
  return .relation (← operation rows)

theorem onRows_run (source : Execution Outcome) (operation : Relation → Except Error Relation) (catalog : Catalog) :
    onRows source operation catalog =
      ((source catalog).1 >>= fun outcome => outcome.toRelation >>= fun rows => Outcome.relation <$> operation rows,
        (source catalog).2) := by
  simp only [onRows, bind_run, lift_run]
  rcases source catalog with ⟨_ | outcome, after⟩
  · rfl
  simp only [bind, Except.bind]
  cases outcome.toRelation with
  | error error => rfl
  | ok rows =>
    dsimp only
    cases operation rows <;> rfl

/-- A property of catalogs holds behind a computation, failed or not, if it holds in front of it. -/
def Preserves (property : Catalog → Prop) (execution : Execution α) : Prop :=
  ∀ catalog, property catalog → property (execution catalog).2

variable {property : Catalog → Prop}

theorem Preserves.bind {first : Execution α} {next : α → Execution β} (head : Preserves property first)
    (rest : ∀ value, Preserves property (next value)) : Preserves property (first >>= next) := by
  intro catalog holds
  have middle := head catalog holds
  rw [bind_run]
  generalize first catalog = reached at middle
  rcases reached with ⟨_ | value, after⟩
  · exact middle
  · exact rest value after middle

theorem Preserves.lift (result : Except Error α) : Preserves property (liftM result) := by
  intro catalog holds
  rw [lift_run]
  exact holds

theorem Preserves.pure (value : α) : Preserves property (pure value) := fun _ holds => holds

theorem Preserves.onRows {source : Execution Outcome} (kept : Preserves property source)
    (operation : Relation → Except Error Relation) : Preserves property (onRows source operation) := by
  intro catalog holds
  rw [onRows_run]
  exact kept catalog holds

end Execution

namespace Plan
open Execution Stateful

theorem modifyTable_run {name : String} {edit : Edit α} {change : Table → Except Error (Table × α)} {catalog : Catalog}
    (does : ∀ table, catalog.get name = .ok table → edit.Does table (change table)) :
    modifyTable name edit catalog = match catalog.get name >>= change with
      | .ok result => (.ok result, catalog.replace name result.1)
      | .error error => (.error error, catalog) := by
  simp only [modifyTable, bind_run, get_run, lift_run]
  cases found : catalog.get name with
  | error error => rfl
  | ok table =>
    have ran := does table found
    simp only [Edit.Does] at ran
    simp only [ExceptT.run, StateT.run, bind, Except.bind, ran]
    cases change table with
    | error error =>
      simp only [Catalog.replace_found found]
      rfl
    | ok result => rfl

theorem run_createTable (table : Table) (catalog : Catalog) :
    (createTable table).run catalog = match catalog.create table with
      | .ok after => (.ok (.created table.name), after)
      | .error error => (.error error, catalog) := by
  simp only [run, execute, bind_run, get_run, lift_run]
  cases catalog.create table <;> rfl

theorem run_dropTable (name : String) (catalog : Catalog) :
    (dropTable name).run catalog = match catalog.drop name with
      | .ok (table, after) => (.ok (.dropped table.name), after)
      | .error error => (.error error, catalog) := by
  simp only [run, execute, bind_run, get_run, lift_run]
  cases catalog.drop name <;> rfl

theorem run_insert (name : String) (values : List Token) (catalog : Catalog) :
    (insert name values).run catalog = match catalog.get name >>= fun table => table.insert values with
      | .ok after => (.ok (.inserted after.name), catalog.replace name after)
      | .error error => (.error error, catalog) := by
  simp only [run, execute, bind_run, modifyTable_run fun table _ => Edit.insert_does values table]
  cases catalog.get name with
  | error error => rfl
  | ok table =>
    simp only [bind, Except.bind]
    cases table.insert values <;> rfl

theorem run_update (name : String) (assignments : List Assignment) (condition : Option Condition) {catalog : Catalog}
    (aligned : ∀ table, catalog.get name = .ok table → table.Aligned) :
    (update name assignments condition).run catalog =
      match catalog.get name >>= fun table => table.update assignments condition with
      | .ok (after, count) => (.ok (.updated after.name count), catalog.replace name after)
      | .error error => (.error error, catalog) := by
  simp only [run, execute, bind_run,
    modifyTable_run fun table found => Edit.update_does (aligned table found) assignments condition]
  cases catalog.get name >>= fun table => table.update assignments condition <;> rfl

theorem run_delete (name : String) (condition : Condition) (catalog : Catalog) :
    (delete name condition).run catalog = match catalog.get name >>= fun table => table.delete condition with
      | .ok (after, count) => (.ok (.deleted after.name count), catalog.replace name after)
      | .error error => (.error error, catalog) := by
  simp only [run, execute, bind_run, modifyTable_run fun table _ => Edit.delete_does condition table]
  cases catalog.get name >>= fun table => table.delete condition <;> rfl

theorem execute_filter (source : Plan) (table : String) (condition : Condition) :
    (filter source table condition).execute = onRows source.execute fun rows => rows.filter table condition := rfl

theorem execute_sort (source : Plan) (table : String) (keys : List SortKey) :
    (sort source table keys).execute = onRows source.execute fun rows => rows.sort table keys := rfl

theorem execute_project (source : Plan) (table : String) (columns : List String) :
    (project source table columns).execute = onRows source.execute fun rows => rows.project table columns := rfl

theorem execute_aggregate (source : Plan) (table : String) (terms : List AggregateTerm) :
    (aggregate source table terms).execute = onRows source.execute fun rows => rows.aggregate table terms := rfl

theorem execute_offset (source : Plan) (count : Nat) :
    (offset source count).execute = onRows source.execute fun rows => .ok (rows.offset count) := rfl

theorem execute_limit (source : Plan) (count : Nat) :
    (limit source count).execute = onRows source.execute fun rows => .ok (rows.limit count) := rfl

theorem execute_distinct (source : Plan) :
    (distinct source).execute = onRows source.execute fun rows => .ok rows.distinct := rfl

end Plan

end MiniSql

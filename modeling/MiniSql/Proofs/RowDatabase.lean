import MiniSql.Engine
import MiniSql.Proofs.RowTable

/-! A database as row lists by name, and statements on it. A statement either gives an outcome and
the next database or fails; there is no plan and no state it could leave half changed. -/

namespace MiniSql

/-- Names that agree in upper case are one key. -/
def RowDatabase := String → Option RowTable

namespace RowDatabase

def empty : RowDatabase := fun _ => none

def table (database : RowDatabase) (name : String) : Except Error RowTable :=
  match database (Catalog.key name) with
  | some table => .ok table
  | none => .error (.unknownTable name)

def set (database : RowDatabase) (name : String) (table : Option RowTable) : RowDatabase :=
  fun key => if key = Catalog.key name then table else database key

/-- The rows a SELECT reads. -/
def source (database : RowDatabase) (select : Select) : Except Error Relation := do
  let own ← database.table select.table
  match select.join with
  | none => return own.toRelation
  | some join =>
    let other ← database.table join.table
    Relation.join join.kind select.table own.toRelation join.table other.toRelation join.on

def checkProjection : Projection → Except Error Unit
  | .all => .ok ()
  | .items items =>
    if (items.filterMap Plan.column?).isEmpty ∨ (items.filterMap Plan.term?).isEmpty then .ok ()
    else .error (.unsupportedExpression "aggregate functions mixed with plain columns")

def choose (table : String) (rows : Relation) : Projection → Except Error Relation
  | .all => .ok rows
  | .items items =>
    match items.filterMap Plan.term? with
    | [] => rows.project table (items.filterMap Plan.column?)
    | terms => rows.aggregate table terms

def keep (table : String) (rows : Relation) : Option Condition → Except Error Relation
  | some condition => rows.filter table condition
  | none => .ok rows

def order (table : String) (rows : Relation) (keys : List SortKey) : Except Error Relation :=
  if keys.isEmpty then .ok rows else rows.sort table keys

/-- At most `count` rows; without a count, all. -/
def first (rows : Relation) : Option Nat → Relation
  | some count => rows.limit count
  | none => rows

def answer (database : RowDatabase) (query : Query) : Except Error Relation := do
  let table := query.select.table
  checkProjection query.select.projection
  let kept ← keep table (← database.source query.select) query.filter
  let chosen ← choose table (← order table kept query.order) query.select.projection
  let window := first (chosen.offset (query.offset.getD 0)) query.limit
  return if query.select.distinct then window.distinct else window

def apply (database : RowDatabase) : Statement → Except Error (Outcome × RowDatabase)
  | .createTable name columns =>
    match firstRepeated [] (columns.map ColumnDef.name), database (Catalog.key name) with
    | some column, _ => .error (.duplicateColumn name column)
    | none, some _ => .error (.tableExists name)
    | none, none => .ok (.created name, database.set name (some ⟨name, columns, []⟩))
  | .dropTable name => do
    let table ← database.table name
    return (.dropped table.name, database.set name none)
  | .insert name tokens => do
    let after ← (← database.table name).insert tokens
    return (.inserted after.name, database.set name (some after))
  | .query query => return (.relation (← database.answer query), database)
  | .update name assignments filter => do
    let (after, count) ← (← database.table name).update assignments filter
    return (.updated after.name count, database.set name (some after))
  | .delete name condition => do
    let (after, count) ← (← database.table name).delete condition
    return (.deleted after.name count, database.set name (some after))

/-- A failing statement changes nothing. -/
def step (database : RowDatabase) (statement : Statement) : RowDatabase :=
  match database.apply statement with
  | .ok (_, after) => after
  | .error _ => database

/-- The database behind a list of statements, each of which may have failed. -/
def after (statements : List Statement) : RowDatabase := statements.foldl step empty

/-- Statements up to the first that fails. -/
def run : List Statement → RowDatabase → Evaluation × RowDatabase
  | [], database => (⟨[], none⟩, database)
  | statement :: statements, database =>
    match database.apply statement with
    | .ok (outcome, after) =>
      let (evaluation, final) := run statements after
      ({ evaluation with outcomes := outcome :: evaluation.outcomes }, final)
    | .error error => (.rejected error, database)

end RowDatabase

end MiniSql

import MiniSql.Catalog
import MiniSql.Outcome
import MiniSql.Plan
import MiniSql.Relation.Aggregate
import MiniSql.Relation.Join
import MiniSql.Relation.Project
import MiniSql.Relation.Sort
import MiniSql.Table.Change

/-! Running a plan against a catalog. What an operation has done to the catalog stays done when a
later operation of the same plan fails. -/

namespace MiniSql

abbrev Execution := Stateful Catalog

namespace Plan

/-- Edits the table of the given name. What the edit has written stays in the catalog, also when it fails. -/
def modifyTable (name : String) (edit : Edit α) : Execution (Table × α) := do
  let catalog ← get
  let table ← catalog.get name
  let (result, changed) := edit.run.run table
  set (catalog.replace name changed)
  return (changed, ← result)

def execute : Plan → Execution Outcome
  | createTable table => do
    set (← (← get).create table)
    return .created table.name
  | dropTable name => do
    let (table, catalog) ← (← get).drop name
    set catalog
    return .dropped table.name
  | insert name values => do
    let (table, _) ← modifyTable name (Edit.insert values)
    return .inserted table.name
  | scan name => do
    let table ← (← get).get name
    return .relation table.toRelation
  | join kind left leftTable right rightTable on => do
    let leftRows ← (← left.execute).toRelation
    let rightRows ← (← right.execute).toRelation
    return .relation (← Relation.join kind leftTable leftRows rightTable rightRows on)
  | filter source table condition => do
    let rows ← (← source.execute).toRelation
    return .relation (← rows.filter table condition)
  | sort source table keys => do
    let rows ← (← source.execute).toRelation
    return .relation (← rows.sort table keys)
  | project source table columns => do
    let rows ← (← source.execute).toRelation
    return .relation (← rows.project table columns)
  | aggregate source table terms => do
    let rows ← (← source.execute).toRelation
    return .relation (← rows.aggregate table terms)
  | offset source count => do
    let rows ← (← source.execute).toRelation
    return .relation (rows.offset count)
  | limit source count => do
    let rows ← (← source.execute).toRelation
    return .relation (rows.limit count)
  | distinct source => do
    let rows ← (← source.execute).toRelation
    return .relation rows.distinct
  | update name assignments condition => do
    let (table, count) ← modifyTable name (Edit.update assignments condition)
    return .updated table.name count
  | delete name condition => do
    let (table, count) ← modifyTable name (Edit.delete condition)
    return .deleted table.name count

def run (plan : Plan) (catalog : Catalog) : Except Error Outcome × Catalog := plan.execute catalog

end Plan

end MiniSql

import MiniSql.Statement
import MiniSql.Table

/-! Plans: what a statement does, as a tree of operations that take rows from the operations below
them. A query reads its tables, then filters, sorts, projects or aggregates, cuts out a window and
drops repeated rows last. -/

namespace MiniSql

inductive Plan where
  | createTable (table : Table)
  | dropTable (table : String)
  | insert (table : String) (values : List Token)
  | scan (table : String)
  | join (kind : JoinKind) (left : Plan) (leftTable : String) (right : Plan) (rightTable : String)
    (on : JoinCondition)
  | filter (source : Plan) (table : String) (condition : Condition)
  | sort (source : Plan) (table : String) (keys : List SortKey)
  | project (source : Plan) (table : String) (columns : List String)
  | aggregate (source : Plan) (table : String) (terms : List AggregateTerm)
  | offset (source : Plan) (count : Nat)
  | limit (source : Plan) (count : Nat)
  | distinct (source : Plan)
  | update (table : String) (assignments : List Assignment) (filter : Option Condition)
  | delete (table : String) (filter : Condition)
  deriving DecidableEq

namespace Plan

def column? : SelectItem → Option String
  | .column name => some name
  | .aggregate _ => none

def term? : SelectItem → Option AggregateTerm
  | .column _ => none
  | .aggregate term => some term

/-- Plain columns or aggregates, but not both. -/
def ofProjection (source : Plan) (table : String) : Projection → Except Error Plan
  | .all => .ok source
  | .items items =>
    match items.filterMap column?, items.filterMap term? with
    | _ :: _, _ :: _ => .error (.unsupportedExpression "aggregate functions mixed with plain columns")
    | [], term :: terms => .ok (aggregate source table (term :: terms))
    | columns, [] => .ok (project source table columns)

def ofSource (select : Select) : Plan :=
  match select.join with
  | none => scan select.table
  | some other => join other.kind (scan select.table) select.table (scan other.table) other.table other.on

def ofQuery (query : Query) : Except Error Plan := do
  let table := query.select.table
  let source := ofSource query.select
  let filtered := match query.filter with
    | some condition => filter source table condition
    | none => source
  let sorted := if query.order.isEmpty then filtered else sort filtered table query.order
  let projected ← ofProjection sorted table query.select.projection
  let shifted := match query.offset with
    | some count => offset projected count
    | none => projected
  let limited := match query.limit with
    | some count => limit shifted count
    | none => shifted
  return if query.select.distinct then distinct limited else limited

def ofStatement : Statement → Except Error Plan
  | .createTable name columns => return createTable (← Table.declare name columns)
  | .dropTable table => return dropTable table
  | .insert table values => return insert table values
  | .query query => ofQuery query
  | .update table assignments condition => return update table assignments condition
  | .delete table condition => return delete table condition

end Plan

end MiniSql

import MiniSql.Token
import MiniSql.Value

/-! Commands as they are written: a flat sequence in which a clause (WHERE, ORDER BY, LIMIT, OFFSET)
is a command of its own and speaks about the SELECT, UPDATE or DELETE before it. Values stay tokens
until they meet the column they are for. -/

namespace MiniSql

structure ColumnDef where
  name : String
  datatype : Datatype
  deriving DecidableEq

inductive AggregateFunction where
  | min | max | count | sum | avg
  deriving DecidableEq

def AggregateFunction.keyword : AggregateFunction → Keyword
  | .min => .MIN
  | .max => .MAX
  | .count => .COUNT
  | .sum => .SUM
  | .avg => .AVG

def AggregateFunction.name (function : AggregateFunction) : String := function.keyword.text

structure AggregateTerm where
  function : AggregateFunction
  column : String
  deriving DecidableEq

/-- A term as it is written, which is also the name of the column it makes. -/
def AggregateTerm.render (term : AggregateTerm) : String := term.function.name ++ "(" ++ term.column ++ ")"

inductive SelectItem where
  | column (name : String)
  | aggregate (term : AggregateTerm)
  deriving DecidableEq

inductive Projection where
  | all
  | items (items : List SelectItem)
  deriving DecidableEq

inductive JoinKind where
  | inner | left | right | full
  deriving DecidableEq

/-- The operands of ON are column names qualified by a table. -/
structure JoinCondition where
  first : String
  second : String
  deriving DecidableEq

structure Join where
  kind : JoinKind
  table : String
  on : JoinCondition
  deriving DecidableEq

/-- A SELECT without its clauses. -/
structure Select where
  table : String
  projection : Projection
  distinct : Bool
  join : Option Join
  deriving DecidableEq

inductive Direction where
  | ascending | descending
  deriving DecidableEq

structure SortKey where
  column : String
  direction : Direction
  deriving DecidableEq

structure Assignment where
  column : String
  value : Token
  deriving DecidableEq

/-- Comparison of a column with one value. Inequality is spelled NOT. -/
inductive Comparison where
  | equal | notEqual
  deriving DecidableEq

inductive Membership where
  | inside | outside
  deriving DecidableEq

inductive Condition where
  | and (left right : Condition)
  | or (left right : Condition)
  | constant (truth : Bool)
  | compare (column : String) (comparison : Comparison) (value : Token)
  | member (column : String) (membership : Membership) (values : List Token)
  deriving DecidableEq

/-- The columns a condition names, in order of appearance. -/
def Condition.columns : Condition → List String
  | .and left right => left.columns ++ right.columns
  | .or left right => left.columns ++ right.columns
  | .constant _ => []
  | .compare column _ _ => [column]
  | .member column _ _ => [column]

inductive Clause where
  | filter (condition : Condition)
  | orderBy (keys : List SortKey)
  | limit (count : Nat)
  | offset (count : Nat)
  deriving DecidableEq

inductive ClauseKind where
  | filter | orderBy | limit | offset
  deriving DecidableEq

def Clause.kind : Clause → ClauseKind
  | .filter _ => .filter
  | .orderBy _ => .orderBy
  | .limit _ => .limit
  | .offset _ => .offset

def ClauseKind.keyword : ClauseKind → Keyword
  | .filter => .WHERE
  | .orderBy => .ORDER
  | .limit => .LIMIT
  | .offset => .OFFSET

inductive Command where
  | createTable (table : String) (columns : List ColumnDef)
  | dropTable (table : String)
  | insert (table : String) (values : List Token)
  | select (select : Select)
  | update (table : String) (assignments : List Assignment)
  | delete (table : String)
  | clause (clause : Clause)
  deriving DecidableEq

end MiniSql

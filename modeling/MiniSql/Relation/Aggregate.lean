import MiniSql.Relation

/-! Aggregates: one row computed from a whole relation. NULL takes no part; over nothing COUNT is
zero and the others are NULL. -/

namespace MiniSql

namespace Value

/-- The value that beats all others, the earlier one of equals; `wins` says which order of a candidate
against the present one beats it. -/
def extremeFrom (command : String) (wins : Ordering) (present : Value) : List Value → Except Error Value
  | [] => return present
  | candidate :: values =>
    match candidate.compare? present with
    | none => throw (.valueType present.typeName candidate.typeName command)
    | some order => extremeFrom command wins (if order = wins then candidate else present) values

def extreme (command : String) (wins : Ordering) : List Value → Except Error Value
  | [] => return .null
  | value :: values => extremeFrom command wins value values

/-- The sum of integers, which must stay an integer at each step. -/
def sumFrom (command : String) (total : Int) : List Value → Except Error Int
  | [] => return total
  | .int number :: values =>
    if fitsInteger (total + number) then sumFrom command (total + number) values
    else throw (.unsupportedValue (command ++ " overflows INT"))
  | value :: _ => throw (.valueType Datatype.int.name value.typeName command)

/-- An average is cut off towards zero. -/
def average (total : Int) (count : Nat) : Int := total.tdiv count

end Value

/-- The aggregate of values none of which is NULL. -/
def AggregateFunction.apply (function : AggregateFunction) (values : List Value) : Except Error Value :=
  match function with
  | .count => return .int values.length
  | .min => Value.extreme function.name .lt values
  | .max => Value.extreme function.name .gt values
  | .sum => if values.isEmpty then return .null else return .int (← Value.sumFrom function.name 0 values)
  | .avg =>
    if values.isEmpty then return .null
    else return .int (Value.average (← Value.sumFrom function.name 0 values) values.length)

namespace Relation

def aggregateTerm (relation : Relation) (table : String) (term : AggregateTerm) : Except Error Value := do
  let index ← columnPosition table relation.columns term.column
  let cells ← relation.rows.mapM fun row => row.cell index
  term.function.apply (cells.filter fun cell => cell ≠ .null)

def aggregate (relation : Relation) (table : String) (terms : List AggregateTerm) : Except Error Relation := do
  return ⟨terms.map AggregateTerm.render, [← terms.mapM (relation.aggregateTerm table)]⟩

end Relation

end MiniSql

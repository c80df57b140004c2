import MiniSql.Relation

/-! WHERE. A comparison with NULL on either side does not hold, negated or not. AND and OR look at
their right side only when the left one leaves the answer open. -/

namespace MiniSql

/-- All columns a condition names exist, also in parts that evaluation would skip. -/
def Condition.check (condition : Condition) (table : String) (columns : List String) : Except Error Unit :=
  condition.columns.forM fun name => discard (columnPosition table columns name)

def Comparison.holds : Comparison → Bool → Bool
  | .equal, same => same
  | .notEqual, same => !same

def Membership.holds : Membership → Bool → Bool
  | .inside, found => found
  | .outside, found => !found

/-- Whether a cell equals some value of a list. All values are compared, also behind a match. -/
def Value.among (cell : Value) : List Token → Except Error Bool
  | [] => return false
  | token :: tokens => do
    let same ← cell.equal? Keyword.WHERE.text (← Value.ofToken token)
    return (← among cell tokens) || same == some true

namespace Condition

def cellOf (table : String) (columns : List String) (row : Row) (column : String) : Except Error Value := do
  row.cell (← columnPosition table columns column)

def holds (table : String) (columns : List String) (row : Row) : Condition → Except Error Bool
  | and left right => do if ← left.holds table columns row then right.holds table columns row else return false
  | or left right => do if ← left.holds table columns row then return true else right.holds table columns row
  | constant truth => return truth
  | compare column comparison token => do
    let cell ← cellOf table columns row column
    match ← cell.equal? Keyword.WHERE.text (← Value.ofToken token) with
    | some same => return comparison.holds same
    | none => return false
  | member column membership tokens => do
    let cell ← cellOf table columns row column
    if cell = .null then return false else return membership.holds (← cell.among tokens)

end Condition

/-- The rows a condition holds for. -/
def Relation.filter (relation : Relation) (table : String) (condition : Condition) : Except Error Relation := do
  condition.check table relation.columns
  return { relation with rows := ← keep (fun row => condition.holds table relation.columns row) relation.rows }

end MiniSql

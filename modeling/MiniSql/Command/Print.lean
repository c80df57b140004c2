import MiniSql.Command

/-! Commands as text. Each ends in a semicolon; parentheses stand only where the grouping of a
condition differs from the one its connectives have anyway. -/

namespace MiniSql

def commaList (texts : List String) : String := ", ".intercalate texts

/-- A number or NULL stands as it is, any other value between apostrophes. -/
def Token.renderValue (token : Token) : String :=
  match token.kind with
  | .literal => token.literal
  | .keyword .NULL => token.literal
  | _ => "'" ++ token.literal ++ "'"

def Token.renderValues (tokens : List Token) : String := commaList (tokens.map renderValue)

def ColumnDef.render (column : ColumnDef) : String := column.name ++ " " ++ column.datatype.name

def SelectItem.render : SelectItem → String
  | .column name => name
  | .aggregate term => term.render

def Projection.render : Projection → String
  | .all => "*"
  | .items chosen => commaList (chosen.map SelectItem.render)

/-- An inner join is written without its kind. -/
def JoinKind.render : JoinKind → String
  | .inner => "JOIN"
  | .left => "LEFT JOIN"
  | .right => "RIGHT JOIN"
  | .full => "FULL JOIN"

def Join.render (join : Join) : String :=
  join.kind.render ++ " " ++ join.table ++ " ON " ++ join.on.first ++ " EQUAL " ++ join.on.second

def Select.render (select : Select) : String :=
  "SELECT " ++ (if select.distinct then "DISTINCT " else "") ++ select.projection.render ++
    " FROM " ++ select.table ++
    match select.join with
    | some join => " " ++ join.render
    | none => ""

def Direction.render : Direction → String
  | .ascending => "ASC"
  | .descending => "DESC"

def SortKey.render (key : SortKey) : String := key.column ++ " " ++ key.direction.render

def Assignment.render (assignment : Assignment) : String :=
  assignment.column ++ " TO " ++ assignment.value.renderValue

def Comparison.render : Comparison → String
  | .equal => "EQUAL"
  | .notEqual => "NOT"

def Membership.render : Membership → String
  | .inside => "IN"
  | .outside => "NOTIN"

namespace Condition

def isOr : Condition → Bool
  | or _ _ => true
  | _ => false

def isAnd : Condition → Bool
  | and _ _ => true
  | _ => false

def parenthesised (needed : Bool) (text : String) : String := if needed then "(" ++ text ++ ")" else text

/-- AND binds tighter than OR and both group to the left. -/
def render : Condition → String
  | or left right => left.render ++ " OR " ++ parenthesised right.isOr right.render
  | and left right =>
    parenthesised left.isOr left.render ++ " AND " ++ parenthesised (right.isOr || right.isAnd) right.render
  | constant true => "TRUE"
  | constant false => "FALSE"
  | compare column comparison value => column ++ " " ++ comparison.render ++ " " ++ value.renderValue
  | member column membership values =>
    column ++ " " ++ membership.render ++ " (" ++ Token.renderValues values ++ ")"

end Condition

def Clause.render : Clause → String
  | .filter condition => "WHERE " ++ condition.render
  | .orderBy keys => "ORDER BY " ++ commaList (keys.map SortKey.render)
  | .limit count => "LIMIT " ++ count.repr
  | .offset count => "OFFSET " ++ count.repr

def Command.render : Command → String
  | .createTable table columns =>
    "CREATE TABLE " ++ table ++ "(" ++ commaList (columns.map ColumnDef.render) ++ ");"
  | .dropTable table => "DROP TABLE " ++ table ++ ";"
  | .insert table values => "INSERT INTO " ++ table ++ " VALUES(" ++ Token.renderValues values ++ ");"
  | .select head => head.render ++ ";"
  | .update table assignments =>
    "UPDATE " ++ table ++ " SET " ++ commaList (assignments.map Assignment.render) ++ ";"
  | .delete table => "DELETE FROM " ++ table ++ ";"
  | .clause part => part.render ++ ";"

def Command.renderAll (commands : List Command) : String := " ".intercalate (commands.map render)

end MiniSql

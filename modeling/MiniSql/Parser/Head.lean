import MiniSql.Parser.Clause

/-! The commands that open a statement. -/

namespace MiniSql.Parser

def columnDef : Parser ColumnDef := do
  let name ← newName
  match (← current).kind with
  | .keyword .INT =>
    advance
    return ⟨name, .int⟩
  | .keyword .TEXT =>
    advance
    return ⟨name, .text⟩
  | _ => unexpected [.keyword .TEXT, .keyword .INT]

def createTable : Parser Command := do
  expectKeyword .CREATE
  expectKeyword .TABLE
  let table ← newName
  let columns ← listed columnDef
  discard (expect .semicolon)
  return .createTable table columns

def dropTable : Parser Command := do
  expectKeyword .DROP
  expectKeyword .TABLE
  let table ← ident
  discard (expect .semicolon)
  return .dropTable table

def insert : Parser Command := do
  expectKeyword .INSERT
  expectKeyword .INTO
  let table ← ident
  expectKeyword .VALUES
  let values ← listed value
  discard (expect .semicolon)
  return .insert table values

def aggregateFunction? : TokenKind → Option AggregateFunction
  | .keyword .MIN => some .min
  | .keyword .MAX => some .max
  | .keyword .COUNT => some .count
  | .keyword .SUM => some .sum
  | .keyword .AVG => some .avg
  | _ => none

def selectItem : Parser SelectItem := do
  let token ← current
  match aggregateFunction? token.kind with
  | some function =>
    advance
    discard (expect .leftParen)
    let column ← ident
    discard (expect .rightParen)
    return .aggregate ⟨function, column⟩
  | none =>
    if token.kind = .ident then return .column (← ident)
    else unexpected [.asterisk, .ident, .keyword .MIN, .keyword .MAX, .keyword .COUNT, .keyword .SUM, .keyword .AVG]

def projection : Parser Projection := do
  if ← accept .asterisk then return .all else return .items (← commaSeparated selectItem)

def joinKind? : TokenKind → Option JoinKind
  | .keyword .INNER => some .inner
  | .keyword .LEFT => some .left
  | .keyword .RIGHT => some .right
  | .keyword .FULL => some .full
  | _ => none

def joinOperands (kind : JoinKind) : Parser Join := do
  expectKeyword .JOIN
  let table ← ident
  expectKeyword .ON
  let first ← ident
  expectKeyword .EQUAL
  let second ← ident
  return ⟨kind, table, first, second⟩

/-- A join without a kind is an inner one. -/
def join? : Parser (Option Join) := do
  let token ← current
  match joinKind? token.kind with
  | some kind =>
    advance
    return some (← joinOperands kind)
  | none => if token.kind = .keyword .JOIN then return some (← joinOperands .inner) else return none

def select : Parser Command := do
  expectKeyword .SELECT
  let distinct ← accept (.keyword .DISTINCT)
  let projection ← projection
  expectKeyword .FROM
  let table ← ident
  let join ← join?
  commandEnd
  return .select ⟨table, projection, distinct, join⟩

def assignment : Parser Assignment := do
  let column ← ident
  expectKeyword .TO
  return ⟨column, ← value⟩

def update : Parser Command := do
  expectKeyword .UPDATE
  let table ← ident
  expectKeyword .SET
  let assignments ← commaSeparated assignment
  commandEnd
  return .update table assignments

def delete : Parser Command := do
  expectKeyword .DELETE
  expectKeyword .FROM
  let table ← ident
  commandEnd
  return .delete table

end MiniSql.Parser

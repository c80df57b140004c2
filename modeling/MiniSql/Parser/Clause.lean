import MiniSql.Parser.Condition

/-! The clauses WHERE, ORDER BY, LIMIT and OFFSET, and the end of a command that takes them. -/

namespace MiniSql.Parser

def clauseKinds : List ClauseKind := [.filter, .orderBy, .limit, .offset]

def endKinds : List TokenKind := .semicolon :: clauseKinds.map fun kind => .keyword kind.keyword

/-- A command that may take clauses ends at a semicolon, or in front of the keyword of a clause. -/
def commandEnd : Parser Unit := do
  if ← accept .semicolon then return ()
  else if (← current).kind ∈ endKinds then return ()
  else unexpected endKinds

def filter : Parser Clause := do
  expectKeyword .WHERE
  modify fun state => { state with connective := none }
  let condition ← condition ((← get).rest.length + 1)
  commandEnd
  return .filter condition

def direction : Parser Direction := do
  match (← current).kind with
  | .keyword .ASC =>
    advance
    return .ascending
  | .keyword .DESC =>
    advance
    return .descending
  | _ => unexpected [.keyword .ASC, .keyword .DESC]

def sortKey : Parser SortKey := do
  let column ← ident
  return ⟨column, ← direction⟩

def orderBy : Parser Clause := do
  expectKeyword .ORDER
  expectKeyword .BY
  let keys ← commaSeparated sortKey
  commandEnd
  return .orderBy keys

def maxCount : Nat := 18446744073709551615

/-- A number of rows. A minus in front of it is no number's part but deserves a message of its own. -/
def count (clause : String) : Parser Nat := do
  let token ← current
  match token.kind with
  | .literal =>
    advance
    match Text.Decimal.nat? token.literal.toList with
    | some number => if number ≤ maxCount then return number else throw (.unsupportedValue token.literal)
    | none => throw (.unsupportedValue token.literal)
  | _ =>
    if token.kind = .illegal ∧ token.literal = "-" then throw (.negativeCount clause)
    else unexpected [.literal]

def limit : Parser Clause := do
  expectKeyword .LIMIT
  let number ← count "limit"
  commandEnd
  return .limit number

def offset : Parser Clause := do
  expectKeyword .OFFSET
  let number ← count "offset"
  commandEnd
  return .offset number

def clause : ClauseKind → Parser Clause
  | .filter => filter
  | .orderBy => orderBy
  | .limit => limit
  | .offset => offset

end MiniSql.Parser

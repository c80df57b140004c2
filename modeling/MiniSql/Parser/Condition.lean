import MiniSql.Command
import MiniSql.Parser

/-! Values and conditions. AND binds tighter than OR and both group to the left. -/

namespace MiniSql.Parser

/-- A number, NULL, or any one token between apostrophes. What stood between apostrophes comes back
as an identifier, whatever it was. -/
def value : Parser Token := do
  let token ← current
  match token.kind with
  | .literal | .keyword .NULL =>
    advance
    return token
  | .apostrophe =>
    advance
    let inner ← current
    if inner.kind = .eof then unexpected [.ident]
    else
      advance
      if ← accept .apostrophe then return ⟨.ident, inner.literal⟩
      else throw (.unclosedQuote inner.literal)
  | .ident => throw (.unopenedQuote token.literal)
  | _ => unexpected [.literal, .keyword .NULL, .apostrophe]

def brokenCondition : Parser α := do throw (.brokenCondition ((← get).connective.map Keyword.text))

def comparison? : TokenKind → Option Comparison
  | .keyword .EQUAL => some .equal
  | .keyword .NOT => some .notEqual
  | _ => none

def membership? : TokenKind → Option Membership
  | .keyword .IN => some .inside
  | .keyword .NOTIN => some .outside
  | _ => none

/-- What a condition says about the column it has just named. -/
def columnTest (column : String) : Parser Condition := do
  let token ← current
  match comparison? token.kind, membership? token.kind with
  | some comparison, _ =>
    advance
    return .compare column comparison (← value)
  | none, some membership =>
    advance
    discard (expect .leftParen)
    let values ← commaSeparated value
    discard (expect .rightParen)
    return .member column membership values
  | none, none => unexpected [.keyword .EQUAL, .keyword .NOT, .keyword .IN, .keyword .NOTIN]

/-- A test, a constant, or a condition between parentheses. -/
def operand (condition : Parser Condition) : Parser Condition := do
  let token ← current
  match token.kind with
  | .leftParen =>
    advance
    let inner ← condition
    if ← accept .rightParen then return inner else brokenCondition
  | .keyword .TRUE =>
    advance
    return .constant true
  | .keyword .FALSE =>
    advance
    return .constant false
  | .ident =>
    let column ← ident
    columnTest column
  | .illegal => throw (.illegalCharacter token.literal)
  | _ => brokenCondition

def moreOperands (connective : Keyword) (combine : Condition → Condition → Condition)
    (operand : Parser Condition) : Nat → Condition → Parser Condition
  | 0, left => return left
  | bound + 1, left => do
    if ← accept (.keyword connective) then
      modify fun state => { state with connective := some connective }
      let right ← operand
      moreOperands connective combine operand bound (combine left right)
    else return left

/-- Operands joined by one connective, grouped to the left. -/
def chain (connective : Keyword) (combine : Condition → Condition → Condition)
    (operand : Parser Condition) : Parser Condition := do
  let first ← operand
  moreOperands connective combine operand (← get).rest.length first

/-- A condition with at most `depth` parentheses open at a time. -/
def condition : Nat → Parser Condition
  | 0 => brokenCondition
  | depth + 1 => chain .OR .or (chain .AND .and (operand (condition depth)))

end MiniSql.Parser

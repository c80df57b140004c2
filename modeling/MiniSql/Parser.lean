import MiniSql.Error
import MiniSql.Token

/-! Reading from a list of tokens with one token of look-ahead. The first fault from the left is the
one reported. -/

namespace MiniSql

/-- The tokens left, and the last AND or OR read in the current condition. -/
structure ParseState where
  rest : List Token
  connective : Option Keyword

abbrev Parser := StateT ParseState (Except Error)

namespace Parser

/-- Behind the last token stands the end token. -/
def current : Parser Token := return (← get).rest.headD Token.eof

def advance : Parser Unit := modify fun state => { state with rest := state.rest.tail }

/-- An illegal character is reported as such, whatever was expected in its place. -/
def unexpected (expected : List TokenKind) : Parser α := do
  let token ← current
  if token.kind = .illegal then throw (.illegalCharacter token.literal)
  else throw (.unexpectedToken (expected.map TokenKind.name) token.kind.name)

def expect (kind : TokenKind) : Parser Token := do
  let token ← current
  if token.kind = kind then
    advance
    return token
  else unexpected [kind]

def expectKeyword (keyword : Keyword) : Parser Unit := discard (expect (.keyword keyword))

/-- Consumes the current token if it is of the given kind. -/
def accept (kind : TokenKind) : Parser Bool := do
  if (← current).kind = kind then
    advance
    return true
  else return false

def ident : Parser String := return (← expect .ident).literal

/-- A name to be given to something new holds no period. -/
def newName : Parser String := do
  let name ← ident
  if '.' ∈ name.toList then throw (.periodInName name) else return name

def moreItems (item : Parser α) : Nat → Parser (List α)
  | 0 => return []
  | bound + 1 => do
    if ← accept .comma then
      let next ← item
      return next :: (← moreItems item bound)
    else return []

def commaSeparated (item : Parser α) : Parser (List α) := do
  let first ← item
  return first :: (← moreItems item (← get).rest.length)

/-- Items between parentheses, possibly none. -/
def listed (item : Parser α) : Parser (List α) := do
  discard (expect .leftParen)
  let items ← if (← current).kind = .rightParen then pure [] else commaSeparated item
  discard (expect .rightParen)
  return items

end Parser

end MiniSql

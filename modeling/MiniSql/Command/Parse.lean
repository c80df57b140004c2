import MiniSql.Command.Position
import MiniSql.Parser.Head
import MiniSql.Token.Scan

/-! Text as a sequence of commands. -/

namespace MiniSql

namespace Parser

def clauseAfter (before : List Command) (kind : ClauseKind) : Parser Command := do
  kind.checkPosition before
  return .clause (← clause kind)

/-- The next command, given those before it, latest first. -/
def command (before : List Command) : Parser Command := do
  let token ← current
  match token.kind with
  | .keyword .CREATE => createTable
  | .keyword .DROP => dropTable
  | .keyword .INSERT => insert
  | .keyword .SELECT => select
  | .keyword .UPDATE => update
  | .keyword .DELETE => delete
  | .keyword .WHERE => clauseAfter before .filter
  | .keyword .ORDER => clauseAfter before .orderBy
  | .keyword .LIMIT => clauseAfter before .limit
  | .keyword .OFFSET => clauseAfter before .offset
  | .illegal => throw (.illegalCharacter token.literal)
  | kind => throw (.unknownCommand kind.name)

/-- All commands behind those already read, which are given latest first. -/
def commands : Nat → List Command → Parser (List Command)
  | 0, before => do
    Command.checkDelete before none
    return before.reverse
  | bound + 1, before => do
    if (← get).rest.isEmpty then
      Command.checkDelete before none
      return before.reverse
    else
      let next ← command before
      Command.checkDelete before (some next)
      commands bound (next :: before)

end Parser

def Command.ofTokens (tokens : List Token) : Except Error (List Command) :=
  ((Parser.commands tokens.length []).run ⟨tokens, none⟩).map Prod.fst

def Command.parse (text : String) : Except Error (List Command) := ofTokens (Token.scan text)

end MiniSql

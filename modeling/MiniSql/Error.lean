/-! What can go wrong, from a character the lexer does not know to a script that cannot be read.
A cause carries the names it speaks of; its wording is fixed here and nowhere else. -/

namespace MiniSql

inductive Error where
  | illegalCharacter (literal : String)
  | unexpectedToken (expected : List String) (actual : String)
  | unknownCommand (word : String)
  /-- A clause stands behind a command it does not belong to. -/
  | misplacedClause (command : String) (predecessors : List String)
  /-- A command lacks the clause it cannot do without. -/
  | missingClause (command : String) (successors : List String)
  /-- A clause stands behind nothing it could belong to. -/
  | noPredecessor (command : String)
  | periodInName (name : String)
  | unopenedQuote (literal : String)
  | unclosedQuote (literal : String)
  /-- A condition breaks off; `connective` is the last AND or OR that was read. -/
  | brokenCondition (connective : Option String)
  | negativeCount (clause : String)
  | tableExists (table : String)
  | unknownTable (table : String)
  | unknownColumn (table column : String)
  | duplicateColumn (table column : String)
  | valueCount (expected actual : Nat) (command : String)
  | valueType (expected actual command : String)
  | unsupportedValue (value : String)
  | unsupportedOperation (token : String)
  | unsupportedConditional (token : String)
  | unsupportedExpression (expression : String)
  | unsupportedCommand (command : String)
  | unreadable (reason : String)
  /-- A cell was asked for outside its row or table. -/
  | cellOutOfRange
  deriving DecidableEq

namespace Error

def braced (text : String) : String := "\x7b" ++ text ++ "\x7d"

def bracedList (texts : List String) : String := braced (", ".intercalate texts)

def message : Error → String
  | illegalCharacter literal => "syntax error, illegal character: " ++ braced literal
  | unexpectedToken expected actual =>
    "syntax error, expecting: " ++ bracedList expected ++ ", got: " ++ braced actual
  | unknownCommand word => "syntax error, invalid command found: " ++ braced word
  | misplacedClause command predecessors =>
    "syntax error, " ++ braced command ++ " command needs " ++ bracedList predecessors ++ " before"
  | missingClause command successors =>
    "syntax error, " ++ braced command ++ " command needs " ++ bracedList successors ++ " after"
  | noPredecessor command => "syntax error, " ++ braced command ++ " command can't be used without predecessor"
  | periodInName name => "syntax error, " ++ braced name ++ " shouldn't contain '.'"
  | unopenedQuote literal => "syntax error, identifier: " ++ braced literal ++ " has no apostrophe on the left"
  | unclosedQuote literal => "syntax error, identifier: " ++ braced literal ++ " has no apostrophe on the right"
  | brokenCondition none => "syntax error, logical expression error"
  | brokenCondition (some connective) => "syntax error, logical expression error after " ++ braced connective
  | negativeCount clause => "syntax error, " ++ braced clause ++ " value should be more than 0"
  | tableExists table => "table with the name of " ++ table ++ " already exists"
  | unknownTable table => "table with the name of " ++ table ++ " doesn't exist"
  | unknownColumn table column => "column with the name of " ++ column ++ " doesn't exist in table " ++ table
  | duplicateColumn table column =>
    "column with the name of " ++ column ++ " is declared twice in table " ++ table
  | valueCount expected actual command =>
    "invalid number of parameters in " ++ command ++ " command, should be: " ++ expected.repr ++
      ", but got: " ++ actual.repr
  | valueType expected actual command =>
    "invalid value type in " ++ command ++ " command, should be: " ++ expected ++ ", but got: " ++ actual
  | unsupportedValue value => "unsupported value type found: " ++ value
  | unsupportedOperation token => "unsupported operation token: " ++ token
  | unsupportedConditional token => "unsupported conditional token: " ++ token
  | unsupportedExpression expression => "unsupported expression type: " ++ expression
  | unsupportedCommand command => "unsupported command type from parser: " ++ command
  | unreadable reason => "io error: " ++ reason
  | cellOutOfRange => "cell out of range"

end Error

/-- A computation on a state that may fail. What it has written by then stays written. -/
abbrev Stateful (σ : Type) := ExceptT Error (StateM σ)

end MiniSql

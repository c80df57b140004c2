import MiniSql.Command.Parse
import MiniSql.Plan.Run

/-! Evaluating commands and text. Nothing runs unless the whole sequence can be read as statements;
after that the statements run one by one, and the first that fails ends the evaluation. -/

namespace MiniSql

structure Evaluation where
  outcomes : List Outcome
  error : Option Error
  deriving DecidableEq

namespace Evaluation

def rejected (error : Error) : Evaluation := ⟨[], some error⟩

/-- The rendered outcomes, each ended by a line feed. -/
def output (evaluation : Evaluation) : String :=
  String.join (evaluation.outcomes.map fun outcome => outcome.render ++ "\n")

def toExcept (evaluation : Evaluation) : Except Error String :=
  match evaluation.error with
  | some error => .error error
  | none => .ok evaluation.output

end Evaluation

def Statement.run (statement : Statement) (catalog : Catalog) : Except Error Outcome × Catalog :=
  match Plan.ofStatement statement with
  | .ok plan => plan.run catalog
  | .error error => (.error error, catalog)

namespace Engine

def runStatements : List Statement → Catalog → Evaluation × Catalog
  | [], catalog => (⟨[], none⟩, catalog)
  | statement :: statements, catalog =>
    match statement.run catalog with
    | (.ok outcome, after) =>
      let (evaluation, final) := runStatements statements after
      ({ evaluation with outcomes := outcome :: evaluation.outcomes }, final)
    | (.error error, after) => (.rejected error, after)

def evaluate (commands : List Command) (catalog : Catalog) : Evaluation × Catalog :=
  match Statement.ofCommands commands with
  | .ok statements => runStatements statements catalog
  | .error error => (.rejected error, catalog)

def execute (text : String) (catalog : Catalog) : Evaluation × Catalog :=
  match Command.parse text with
  | .ok commands => evaluate commands catalog
  | .error error => (.rejected error, catalog)

end Engine

end MiniSql

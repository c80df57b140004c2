import MiniSql.Command.Position

/-! Statements: commands together with the clauses that speak about them. A clause goes to the
statement opened last; how the parser would have placed it is checked again here, because a
sequence of commands may have been put together by hand. -/

namespace MiniSql

/-- A SELECT and its clauses. No sort key means no ORDER BY. -/
structure Query where
  select : Select
  filter : Option Condition
  order : List SortKey
  limit : Option Nat
  offset : Option Nat
  deriving DecidableEq

inductive Statement where
  | createTable (table : String) (columns : List ColumnDef)
  | dropTable (table : String)
  | insert (table : String) (values : List Token)
  | query (query : Query)
  | update (table : String) (assignments : List Assignment) (filter : Option Condition)
  | delete (table : String) (filter : Condition)
  deriving DecidableEq

namespace Statement

/-- The statement with one more clause, if it takes clauses and has none of this kind yet. -/
def attach? : Statement → Clause → Option Statement
  | query q, .filter condition => if q.filter.isNone then some (query { q with filter := some condition }) else none
  | query q, .orderBy keys => if q.order.isEmpty then some (query { q with order := keys }) else none
  | query q, .limit count => if q.limit.isNone then some (query { q with limit := some count }) else none
  | query q, .offset count => if q.offset.isNone then some (query { q with offset := some count }) else none
  | update table assignments none, .filter condition => some (update table assignments (some condition))
  | _, _ => none

def takesClauses : Statement → Bool
  | query _ => true
  | update _ _ _ => true
  | delete _ _ => true
  | _ => false

/-- Statements read so far, latest first, and the table of a DELETE that waits for its WHERE. -/
structure Progress where
  done : List Statement
  pending : Option String

namespace Progress

def start : Progress := ⟨[], none⟩

def push (progress : Progress) (statement : Statement) : Progress :=
  { progress with done := statement :: progress.done }

def attach (progress : Progress) (clause : Clause) : Except Error Progress :=
  let keyword := clause.kind.keyword.text
  match progress.done with
  | last :: earlier =>
    if last.takesClauses then
      match last.attach? clause with
      | some extended => .ok { progress with done := extended :: earlier }
      | none => .error (.unsupportedCommand keyword)
    else .error (.noPredecessor keyword)
  | [] => .error (.noPredecessor keyword)

def step (progress : Progress) (command : Command) : Except Error Progress :=
  match progress.pending, command with
  | some table, .clause (.filter condition) => .ok ⟨delete table condition :: progress.done, none⟩
  | some _, _ => .error .deleteWithoutWhere
  | none, .createTable table columns => .ok (progress.push (createTable table columns))
  | none, .dropTable table => .ok (progress.push (dropTable table))
  | none, .insert table values => .ok (progress.push (insert table values))
  | none, .select select => .ok (progress.push (query ⟨select, none, [], none, none⟩))
  | none, .update table assignments => .ok (progress.push (update table assignments none))
  | none, .delete table => .ok { progress with pending := some table }
  | none, .clause clause => progress.attach clause

def finish (progress : Progress) : Except Error (List Statement) :=
  if progress.pending.isSome then .error .deleteWithoutWhere else .ok progress.done.reverse

end Progress

def ofCommands (commands : List Command) : Except Error (List Statement) := do
  (← commands.foldlM Progress.step .start).finish

end Statement

end MiniSql

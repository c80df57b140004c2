import MiniSql.Command

/-! Where a command may stand. A clause needs a SELECT, UPDATE or DELETE to speak about and has its
place among the clauses already there; a DELETE needs its WHERE at once. Commands before the one in
question are given latest first. -/

namespace MiniSql

def Command.clause? : Command → Option Clause
  | .clause part => some part
  | _ => none

def ClauseKind.predecessors : ClauseKind → List Keyword
  | .filter => [.SELECT, .UPDATE, .DELETE]
  | .orderBy => [.SELECT, .WHERE]
  | .limit => [.SELECT, .WHERE, .ORDER, .OFFSET]
  | .offset => [.SELECT, .WHERE, .ORDER, .LIMIT]

/-- Whether a clause may follow, given whether a SELECT is the head and which clauses already stand
behind it, latest first. -/
def ClauseKind.allowed (kind : ClauseKind) (ofSelect : Bool) (earlier : List ClauseKind) : Bool :=
  match kind with
  | .filter => earlier.isEmpty
  | .orderBy => ofSelect && (earlier.isEmpty || earlier.head? == some .filter)
  | .limit => ofSelect && !earlier.contains .limit
  | .offset => ofSelect && !earlier.contains .offset

/-- Checks a clause against the commands before it. -/
def ClauseKind.checkPosition (kind : ClauseKind) (before : List Command) : Except Error Unit :=
  let earlier := (before.takeWhile fun command => command.clause?.isSome).filterMap Command.clause?
  let misplaced := Error.misplacedClause kind.keyword.text (kind.predecessors.map Keyword.text)
  let check (ofSelect : Bool) := if kind.allowed ofSelect (earlier.map Clause.kind) then .ok () else .error misplaced
  match before.dropWhile fun command => command.clause?.isSome with
  | .select _ :: _ => check true
  | .update _ _ :: _ => check false
  | .delete _ :: _ => check false
  | _ => .error (.noPredecessor kind.keyword.text)

def Error.deleteWithoutWhere : Error := .missingClause Keyword.DELETE.text [Keyword.WHERE.text]

/-- A DELETE must be followed by its WHERE at once. -/
def Command.checkDelete (before : List Command) (next : Option Command) : Except Error Unit :=
  match before, next with
  | .delete _ :: _, some (.clause (.filter _)) => .ok ()
  | .delete _ :: _, _ => .error .deleteWithoutWhere
  | _, _ => .ok ()

end MiniSql

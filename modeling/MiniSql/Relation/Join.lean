import MiniSql.Relation

/-! Joins: every row of one relation against every row of the other. Columns of the result carry
the name of their table. A row that finds no partner is padded with NULL where the kind asks for it. -/

namespace MiniSql.Relation

def qualify (table : String) (columns : List String) : List String := columns.map fun column => table ++ "." ++ column

/-- The part of a name in front of its first period, if there is one. -/
def qualifier? (name : String) : Option String :=
  let letters := name.toList
  if '.' ∈ letters then some (String.ofList (letters.takeWhile (· ≠ '.'))) else none

/-- The position of an operand of ON. An error speaks of the right table only if the operand does. -/
def operandPosition (left right : String) (columns : List String) (name : String) : Except Error Nat :=
  columnPosition (if qualifier? name = some right then right else left) columns name

/-- Where the two operands of ON stand in a joined row. -/
structure JoinPositions where
  first : Nat
  second : Nat

namespace JoinPositions

/-- NULL never matches. -/
def matched (positions : JoinPositions) (row : Row) : Except Error Bool := do
  let first ← row.cell positions.first
  let second ← row.cell positions.second
  return (← first.equal? "JOIN" second) == some true

/-- The joined rows of one left row, each with the position of its right row. -/
def partners (positions : JoinPositions) (left : Row) : Nat → List Row → Except Error (List (Nat × Row))
  | _, [] => return []
  | index, right :: rights => do
    let row := left ++ right
    if ← positions.matched row then return (index, row) :: (← partners positions left (index + 1) rights)
    else partners positions left (index + 1) rights

def partnersOfRight (positions : JoinPositions) (right : Row) (lefts : List Row) : Except Error (List Row) :=
  keep positions.matched (lefts.map fun left => left ++ right)

end JoinPositions

def nulls (width : Nat) : Row := List.replicate width .null

/-- Left rows in order, each with its partners in order; also the positions of all right rows that
found a partner. -/
def joinLefts (positions : JoinPositions) (pad : Row → List Row) (rights : List Row) :
    List Row → Except Error (List Row × List Nat)
  | [] => return ([], [])
  | left :: lefts => do
    let found ← positions.partners left 0 rights
    let (rows, matched) ← joinLefts positions pad rights lefts
    let own := if found.isEmpty then pad left else found.map Prod.snd
    return (own ++ rows, found.map Prod.fst ++ matched)

/-- Right rows in order, each with its partners in order or padded. -/
def joinRights (positions : JoinPositions) (width : Nat) (lefts : List Row) : List Row → Except Error (List Row)
  | [] => return []
  | right :: rights => do
    let found ← positions.partnersOfRight right lefts
    let rows ← joinRights positions width lefts rights
    return (if found.isEmpty then [nulls width ++ right] else found) ++ rows

/-- The right rows that found no partner, padded. -/
def unmatchedRights (width : Nat) (matched : List Nat) (rights : List Row) : List Row :=
  (rights.zipIdx.filter fun entry => entry.2 ∉ matched).map fun entry => nulls width ++ entry.1

def joinRows (kind : JoinKind) (positions : JoinPositions) (left right : Relation) : Except Error (List Row) :=
  let padLeft (row : Row) := [row ++ nulls right.columns.length]
  match kind with
  | .inner => return (← joinLefts positions (fun _ => []) right.rows left.rows).1
  | .left => return (← joinLefts positions padLeft right.rows left.rows).1
  | .right => joinRights positions left.columns.length left.rows right.rows
  | .full => do
    let (rows, matched) ← joinLefts positions padLeft right.rows left.rows
    return rows ++ unmatchedRights left.columns.length matched right.rows

def join (kind : JoinKind) (leftTable : String) (left : Relation) (rightTable : String) (right : Relation)
    (on : JoinCondition) : Except Error Relation := do
  let columns := qualify leftTable left.columns ++ qualify rightTable right.columns
  let first ← operandPosition leftTable rightTable columns on.first
  let second ← operandPosition leftTable rightTable columns on.second
  return ⟨columns, ← joinRows kind ⟨first, second⟩ left right⟩

end MiniSql.Relation

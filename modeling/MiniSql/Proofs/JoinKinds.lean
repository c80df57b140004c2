import Mathlib.Data.List.Perm.Basic
import MiniSql.Proofs.ChosenRows
import MiniSql.Proofs.JoinMeaning
import MiniSql.Proofs.RelationSafety

/-! The four kinds of join beside each other. Each kind compares every left row with every right row, in one order or the
other, and columns have types, so that all kinds fail with one error or none does. RIGHT is LEFT with the tables exchanged,
and what FULL has more than LEFT is what RIGHT has more than INNER. -/

namespace MiniSql

section
variable {lefts rights : List Row}

private theorem map_filter_eq_flatMap (test : Row → Bool) (f : Row → Row) (rows : List Row) :
    (rows.filter test).map f = rows.flatMap fun row => if test row then [f row] else [] := by
  induction rows with
  | nil => rfl
  | cons row rows ih =>
    rw [List.flatMap_cons, ← ih, List.filter_cons]
    split <;> rfl

private theorem flatMap_exchange (f : Row → Row → List Row) (lefts rights : List Row) :
    (lefts.flatMap fun left => rights.flatMap (f left)).Perm (rights.flatMap fun right => lefts.flatMap (f · right)) := by
  induction lefts with
  | nil => simp
  | cons left lefts ih =>
    simp only [List.flatMap_cons]
    exact (ih.append_left _).trans (List.flatMap_append_perm rights (f left) _)

private theorem inner_exchange (pairs : Row → Row → Bool) :
    (lefts.flatMap (rowsOfLeft pairs rights)).Perm (rights.flatMap (rowsOfRight pairs lefts)) := by
  have ofLeft : rowsOfLeft pairs rights = fun left =>
      rights.flatMap fun right => if pairs left right then [left ++ right] else [] :=
    funext fun left => map_filter_eq_flatMap _ _ _
  have ofRight : rowsOfRight pairs lefts = fun right =>
      lefts.flatMap fun left => if pairs left right then [left ++ right] else [] :=
    funext fun right => map_filter_eq_flatMap _ _ _
  rw [ofLeft, ofRight]
  exact flatMap_exchange _ lefts rights

private theorem padded_perm (pad : Row → Row) (found : Row → List Row) (rows : List Row) :
    (padded (fun row => [pad row]) found rows).Perm
      ((rows.filter fun row => (found row).isEmpty).map pad ++ rows.flatMap found) := by
  have each : padded (fun row => [pad row]) found rows =
      rows.flatMap fun row => (if (found row).isEmpty then [pad row] else []) ++ found row := by
    apply List.flatMap_congr
    intro row _
    split
    next empty => rw [List.isEmpty_iff.mp empty, List.append_nil]
    next => rfl
  rw [each, map_filter_eq_flatMap]
  exact (List.flatMap_append_perm rows _ _).symm

namespace JoinKind
variable (pairs : Row → Row → Bool) (leftWidth rightWidth : Nat)

/-- A right row that no left row pairs with is one for which nothing is found. -/
theorem full_and_inner :
    (full.combine pairs leftWidth rightWidth lefts rights ++ inner.combine pairs leftWidth rightWidth lefts rights).Perm
      (left.combine pairs leftWidth rightWidth lefts rights ++ right.combine pairs leftWidth rightWidth lefts rights) := by
  have lonely : (rights.filter fun right => lefts.all fun left => !pairs left right) =
      rights.filter fun right => (rowsOfRight pairs lefts right).isEmpty := by
    apply List.filter_congr
    intro right _
    rw [Bool.eq_iff_iff]
    simp [rowsOfRight]
  have apart := padded_perm (Relation.nulls leftWidth ++ ·) (rowsOfRight pairs lefts) rights
  simp only [combine, List.append_assoc, lonely]
  apply List.Perm.append_left
  exact ((inner_exchange pairs).append_left _).trans apart.symm

/-- A row with the part behind the given width in front. -/
def exchange (width : Nat) (row : Row) : Row := row.drop width ++ row.take width

private theorem right_eq_left (sized : ∀ right ∈ rights, right.length = rightWidth) :
    right.combine pairs leftWidth rightWidth lefts rights =
      (left.combine (fun right left => pairs left right) rightWidth leftWidth rights lefts).map (exchange rightWidth) := by
  simp only [combine, padded, List.map_flatMap]
  apply List.flatMap_congr
  intro right member
  have exchanged (left : Row) : exchange rightWidth (right ++ left) = left ++ right := by
    rw [exchange, ← sized right member, List.drop_left, List.take_left]
  have found : rowsOfRight pairs lefts right =
      (rowsOfLeft (fun right left => pairs left right) lefts right).map (exchange rightWidth) := by
    rw [rowsOfLeft, rowsOfRight, List.map_map]
    exact List.map_congr_left fun left _ => (exchanged left).symm
  rw [found, List.isEmpty_map]
  split
  · rw [List.map_singleton, exchanged]
  · rfl

end JoinKind

end

namespace Relation
variable {positions : JoinPositions} {left right : Row} {lefts rights : List Row} {one other : Relation}
  {known : Row → Prop} {failure : Error → Prop}

private theorem keep_covers {test : Row → Except Error Bool} {rows : List Row}
    (each : ∀ row ∈ rows, Except.Ends (test row) (fun _ => known row) failure) :
    Except.Ends (keep test rows) (fun _ => ∀ row ∈ rows, known row) failure := by
  rw [keep_eq_mapM, map_eq_pure_bind]
  exact .bind (.mapM each) fun _ all => .ok all

namespace JoinPositions

private theorem partners_covers
    (each : ∀ right ∈ rights, Except.Ends (positions.matched (left ++ right)) (fun _ => known (left ++ right)) failure)
    (index : Nat) :
    Except.Ends (positions.partners left index rights) (fun _ => ∀ right ∈ rights, known (left ++ right)) failure := by
  induction rights generalizing index with
  | nil => exact .ok (List.forall_mem_nil _)
  | cons right rights ih =>
    obtain ⟨own, others⟩ := List.forall_mem_cons.mp each
    apply Except.Ends.bind own
    intro passed holds
    have rest : Except.Ends (positions.partners left (index + 1) rights)
        (fun _ => ∀ partner ∈ right :: rights, known (left ++ partner)) failure :=
      (ih others (index + 1)).imp fun _ all => List.forall_mem_cons.mpr ⟨holds, all⟩
    split
    · exact .bind rest fun _ all => .ok all
    · exact rest

private theorem partnersOfRight_covers
    (each : ∀ left ∈ lefts, Except.Ends (positions.matched (left ++ right)) (fun _ => known (left ++ right)) failure) :
    Except.Ends (positions.partnersOfRight right lefts) (fun _ => ∀ left ∈ lefts, known (left ++ right)) failure :=
  (keep_covers (List.forall_mem_map.mpr each)).imp fun _ all => List.forall_mem_map.mp all

end JoinPositions

open JoinPositions

private theorem joinLefts_covers {pad : Row → List Row}
    (each : ∀ left ∈ lefts, ∀ right ∈ rights,
      Except.Ends (positions.matched (left ++ right)) (fun _ => known (left ++ right)) failure) :
    Except.Ends (joinLefts positions pad rights lefts)
      (fun _ => ∀ left ∈ lefts, ∀ right ∈ rights, known (left ++ right)) failure := by
  induction lefts with
  | nil => exact .ok (List.forall_mem_nil _)
  | cons left lefts ih =>
    obtain ⟨own, others⟩ := List.forall_mem_cons.mp each
    apply Except.Ends.bind (partners_covers own 0)
    intro found holds
    exact .bind (ih others) fun _ all => .ok (List.forall_mem_cons.mpr ⟨holds, all⟩)

private theorem joinRights_covers {width : Nat}
    (each : ∀ right ∈ rights, ∀ left ∈ lefts,
      Except.Ends (positions.matched (left ++ right)) (fun _ => known (left ++ right)) failure) :
    Except.Ends (joinRights positions width lefts rights)
      (fun _ => ∀ right ∈ rights, ∀ left ∈ lefts, known (left ++ right)) failure := by
  induction rights with
  | nil => exact .ok (List.forall_mem_nil _)
  | cons right rights ih =>
    obtain ⟨own, others⟩ := List.forall_mem_cons.mp each
    apply Except.Ends.bind (partnersOfRight_covers own)
    intro found holds
    exact .bind (ih others) fun _ all => .ok (List.forall_mem_cons.mpr ⟨holds, all⟩)

/-- A join of any kind that comes to its end has compared every left row with every right row. -/
theorem joinRows_covers (known : Row → Prop) (kind : JoinKind)
    (each : ∀ left ∈ one.rows, ∀ right ∈ other.rows,
      Except.Ends (positions.matched (left ++ right)) (fun _ => known (left ++ right)) failure) :
    Except.Ends (joinRows kind positions one other)
      (fun _ => ∀ left ∈ one.rows, ∀ right ∈ other.rows, known (left ++ right)) failure := by
  cases kind with
  | inner | left | full => exact .bind (joinLefts_covers each) fun _ all => .ok all
  | right =>
    have exchanged := fun right present left member => each left member right present
    exact (joinRights_covers exchanged).imp fun _ all left member right present => all right present left member

private theorem joinRows_succeeds (kind : JoinKind)
    (tested : ∀ left ∈ one.rows, ∀ right ∈ other.rows, ∃ passed, positions.matched (left ++ right) = .ok passed) :
    joinRows kind positions one other =
      .ok (kind.combine positions.Pairs one.columns.length other.columns.length one.rows other.rows) := by
  have each : ∀ left ∈ one.rows, ∀ right ∈ other.rows,
      Except.Ends (positions.matched (left ++ right)) (fun _ => True) fun _ => False := by
    intro left member right present
    obtain ⟨passed, done⟩ := tested left member right present
    exact .of_returns ⟨passed, done, trivial⟩
  obtain ⟨rows, done, _⟩ := (joinRows_covers (fun _ => True) kind each).returns
  rw [done, joinRows_eq_ok done]

/-- Where comparing can only fail in one way, one pair of rows that fails makes every kind of join fail in this way. -/
theorem joinRows_fails {error : Error} (kind : JoinKind)
    (uniform : ∀ left ∈ one.rows, ∀ right ∈ other.rows, ∀ own,
      positions.matched (left ++ right) = .error own → own = error)
    (member : left ∈ one.rows) (present : right ∈ other.rows) (failed : positions.matched (left ++ right) = .error error) :
    joinRows kind positions one other = .error error := by
  have each : ∀ left ∈ one.rows, ∀ right ∈ other.rows, Except.Ends (positions.matched (left ++ right))
      (fun _ => ∃ passed, positions.matched (left ++ right) = .ok passed) (· = error) := by
    intro left member right present
    cases compared : positions.matched (left ++ right) with
    | error own => exact .error (uniform left member right present own compared)
    | ok passed => exact .ok ⟨passed, rfl⟩
  have ends := joinRows_covers (fun row => ∃ passed, positions.matched row = .ok passed) kind each
  cases joined : joinRows kind positions one other with
  | error own =>
    rw [joined] at ends
    exact congrArg _ ends
  | ok rows =>
    -- Then the pair that fails would have been compared too.
    obtain ⟨passed, compared⟩ := ends.result joined left member right present
    cases compared.symm.trans failed

end Relation

namespace Operand
variable {left right name : String} {leftColumns rightColumns : List String} {pick : Row → Row → Value}

private theorem of_mem (known : name ∈ Relation.qualify left leftColumns ++ Relation.qualify right rightColumns) :
    ∃ pick, Operand left leftColumns right rightColumns name pick := by
  rcases List.mem_append.mp known with known | known
  · obtain ⟨column, member, rfl⟩ := List.mem_map.mp known
    exact ⟨_, .left member⟩
  · obtain ⟨column, member, rfl⟩ := List.mem_map.mp known
    exact ⟨_, .right member⟩

private theorem mem (operand : Operand left leftColumns right rightColumns name pick) :
    name ∈ Relation.qualify left leftColumns ++ Relation.qualify right rightColumns := by
  cases operand with
  | left known => exact List.mem_append_left _ (List.mem_map_of_mem known)
  | right known => exact List.mem_append_right _ (List.mem_map_of_mem known)

private theorem exchange (operand : Operand left leftColumns right rightColumns name pick) :
    Operand right rightColumns left leftColumns name fun row other => pick other row := by
  cases operand with
  | left known => exact .right known
  | right known => exact .left known

end Operand

private theorem Table.Valid.value_fits {table : Table} {column : String} (valid : table.Valid)
    (known : column ∈ table.columnNames) :
    ∃ datatype, ∀ row ∈ table.rows, (row.value table.columnNames column).fits datatype := by
  rw [← table.names_schema] at known
  obtain ⟨datatype, found⟩ := Option.isSome_iff_exists.mp (typeOf?_isSome known)
  refine ⟨datatype, fun row member => ?_⟩
  obtain ⟨value, read, fits⟩ := (valid.hasType.rows row member).cell found
  rw [table.names_schema] at read
  rwa [Row.value_of_cell read]

theorem Operand.fits {leftName rightName name : String} {left right : Table} {pick : Row → Row → Value}
    (operand : Operand leftName left.columnNames rightName right.columnNames name pick) (valid : left.Valid)
    (validRight : right.Valid) : ∃ datatype, ∀ row ∈ left.rows, ∀ other ∈ right.rows, (pick row other).fits datatype := by
  cases operand with
  | left known =>
    obtain ⟨datatype, fits⟩ := valid.value_fits known
    exact ⟨datatype, fun row member _ _ => fits row member⟩
  | right known =>
    obtain ⟨datatype, fits⟩ := validRight.value_fits known
    exact ⟨datatype, fun _ _ other present => fits other present⟩

private theorem Value.equal?_error {first second : Value} {expected actual : Datatype} {command : String} {error : Error}
    (fits : first.fits expected) (fitsSecond : second.fits actual) (failed : first.equal? command second = .error error) :
    error = .valueType expected.name actual.name command := by
  unfold equal? at failed
  split at failed
  next own other typed typedSecond =>
    obtain rfl : own = expected := by simpa [Value.fits, typed] using fits
    obtain rfl : other = actual := by simpa [Value.fits, typedSecond] using fitsSecond
    split at failed
    · cases failed
    · exact (Except.error.inj failed).symm
  next => cases failed

/-- What ON makes of a pair of rows, given what its operands name. -/
def joins (first second : Row → Row → Value) (left right : Row) : Except Error Bool :=
  (· == some true) <$> (first left right).equal? "JOIN" (second left right)

/-- The operands of ON name cells of two tables whose columns are told apart. -/
structure JoinCondition.Names (on : JoinCondition) (leftName : String) (left : Table) (rightName : String) (right : Table)
    (first second : Row → Row → Value) : Prop where
  distinct : (Relation.qualify leftName left.columnNames ++ Relation.qualify rightName right.columnNames).Nodup
  first : Operand leftName left.columnNames rightName right.columnNames on.first first
  second : Operand leftName left.columnNames rightName right.columnNames on.second second

/-- Where the operands of ON stand in the joined rows. -/
def JoinCondition.positions (on : JoinCondition) (columns : List String) : Relation.JoinPositions :=
  ⟨columns.idxOf on.first, columns.idxOf on.second⟩

namespace JoinCondition.Names
variable {on : JoinCondition} {leftName rightName : String} {left right : Table} {first second : Row → Row → Value}

private theorem exchange (names : on.Names leftName left rightName right first second) :
    on.Names rightName right leftName left (fun row other => first other row) fun row other => second other row :=
  ⟨List.nodup_append_comm.mp names.distinct, names.first.exchange, names.second.exchange⟩

theorem uniform (names : on.Names leftName left rightName right first second) (valid : left.Valid)
    (validRight : right.Valid) :
    ∃ error, ∀ one ∈ left.rows, ∀ other ∈ right.rows, ∀ own, joins first second one other = .error own → own = error := by
  obtain ⟨expected, fits⟩ := names.first.fits valid validRight
  obtain ⟨actual, fitsSecond⟩ := names.second.fits valid validRight
  refine ⟨.valueType expected.name actual.name "JOIN", ?_⟩
  intro one member other present own failed
  apply Value.equal?_error (fits one member other present) (fitsSecond one member other present)
  exact Except.map_eq_error.mp failed

private theorem matched (names : on.Names leftName left rightName right first second) {one other : Row} (member : one ∈ left.rows)
    (present : other ∈ right.rows) :
    (on.positions (Relation.qualify leftName left.columnNames ++ Relation.qualify rightName right.columnNames)).matched
      (one ++ other) = joins first second one other := by
  have long : one.length = left.columnNames.length := left.length_of_mem_rows member
  have longOther : other.length = right.columnNames.length := right.length_of_mem_rows present
  have read := Relation.cell_of_operand names.distinct names.first long longOther
  have readSecond := Relation.cell_of_operand names.distinct names.second long longOther
  simp only [Relation.JoinPositions.matched, positions, read, readSecond, joins, bind, Except.bind]
  cases (first one other).equal? "JOIN" (second one other) <;> rfl

private theorem join_eq (names : on.Names leftName left rightName right first second) (kind : JoinKind) :
    let columns := Relation.qualify leftName left.columnNames ++ Relation.qualify rightName right.columnNames
    Relation.join kind leftName left.toRelation rightName right.toRelation on =
      (fun rows => ⟨columns, rows⟩) <$> Relation.joinRows kind (on.positions columns) left.toRelation right.toRelation := by
  intro columns
  have place {name : String} (known : name ∈ columns) :
      Relation.operandPosition leftName rightName columns name = .ok (columns.idxOf name) := columnPosition_of_mem _ known
  simp only [Relation.join, Table.toRelation]
  rw [place names.first.mem, place names.second.mem]
  rfl

private theorem join_fails (names : on.Names leftName left rightName right first second) (valid : left.Valid)
    (validRight : right.Valid) {one other : Row} {error : Error} (member : one ∈ left.rows) (present : other ∈ right.rows)
    (failed : joins first second one other = .error error) (kind : JoinKind) :
    Relation.join kind leftName left.toRelation rightName right.toRelation on = .error error := by
  obtain ⟨own, uniform⟩ := names.uniform valid validRight
  obtain rfl := uniform one member other present error failed
  rw [names.join_eq, Except.map_eq_error]
  apply Relation.joinRows_fails kind ?_ member present
  · rw [names.matched member present, failed]
  · intro one member other present own failed
    rw [names.matched member present] at failed
    exact uniform one member other present own failed

private theorem join_succeeds (names : on.Names leftName left rightName right first second)
    (tested : ∀ one ∈ left.rows, ∀ other ∈ right.rows, ∃ passed, joins first second one other = .ok passed)
    (kind : JoinKind) :
    Relation.join kind leftName left.toRelation rightName right.toRelation on =
      .ok ⟨Relation.qualify leftName left.columnNames ++ Relation.qualify rightName right.columnNames,
        kind.combine (fun one other => joins first second one other = .ok true) left.columnNames.length
          right.columnNames.length left.rows right.rows⟩ := by
  have compared := fun one member other present => (names.matched member present).symm ▸ tested one member other present
  rw [names.join_eq, Relation.joinRows_succeeds kind compared]
  apply congrArg (fun rows => Except.ok (Relation.mk _ rows))
  apply JoinKind.combine_congr
  intro one member other present
  rw [Relation.JoinPositions.Pairs, names.matched member present]

/-- One pair of rows that cannot be compared decides for all kinds of join. -/
theorem compared_or_fails (names : on.Names leftName left rightName right first second) (valid : left.Valid)
    (validRight : right.Valid) :
    (∀ one ∈ left.rows, ∀ other ∈ right.rows, ∃ passed, joins first second one other = .ok passed) ∨
      ∃ error, ∀ kind, Relation.join kind leftName left.toRelation rightName right.toRelation on = .error error := by
  by_cases compared : ∀ one ∈ left.rows, ∀ other ∈ right.rows, ∃ passed, joins first second one other = .ok passed
  · exact .inl compared
  · push Not at compared
    obtain ⟨one, member, other, present, failing⟩ := compared
    cases failed : joins first second one other with
    | ok passed => exact absurd failed (failing passed)
    | error error => exact .inr ⟨error, names.join_fails valid validRight member present failed⟩

end JoinCondition.Names

namespace Query

def joined (kind : JoinKind) (left right : String) (on : JoinCondition) : Query :=
  ⟨⟨left, .all, false, some ⟨kind, right, on⟩⟩, none, [], none, none⟩

private theorem run_joined {catalog : Catalog} {leftName rightName : String} {left right : Table}
    (found : catalog.get leftName = .ok left) (foundOther : catalog.get rightName = .ok right) (kind : JoinKind)
    (on : JoinCondition) : ((Statement.query (joined kind leftName rightName on)).run catalog).1 =
      Outcome.relation <$> Relation.join kind leftName left.toRelation rightName right.toRelation on := by
  have answer : catalog.contents.answer (joined kind leftName rightName on) =
      Relation.join kind leftName left.toRelation rightName right.toRelation on := by
    simp only [RowDatabase.answer, RowDatabase.source, joined, catalog.table_of_get found, catalog.table_of_get foundOther,
      Table.toRelation_contents, bind, Except.bind]
    change (Relation.join kind leftName left.toRelation rightName right.toRelation on >>= pure) = _
    exact bind_pure _
  rw [Statement.run_query, answer]

end Query

private theorem Engine.names_of_known {texts : List String} {leftName rightName : String} {left right : Table} {on : JoinCondition}
    (found : (executed texts).get leftName = .ok left) (foundOther : (executed texts).get rightName = .ok right)
    (apart : Catalog.key leftName ≠ Catalog.key rightName)
    (known : on.first ∈ Relation.qualify leftName left.columnNames ++ Relation.qualify rightName right.columnNames)
    (knownSecond : on.second ∈ Relation.qualify leftName left.columnNames ++ Relation.qualify rightName right.columnNames) :
    ∃ first second, on.Names leftName left rightName right first second := by
  obtain ⟨first, operand⟩ := Operand.of_mem known
  obtain ⟨second, operandSecond⟩ := Operand.of_mem knownSecond
  refine ⟨first, second, ?_, operand, operandSecond⟩
  apply Relation.nodup_qualify (plain_of_get found) (plain_of_get foundOther)
  · intro same
    exact apart (congrArg _ same)
  · exact (Catalog.get_valid (executed_valid texts) found).2.distinct
  · exact (Catalog.get_valid (executed_valid texts) foundOther).2.distinct

/-- Whatever text has been executed, all four kinds of join of two different tables fail with one error or all succeed, if
the operands of ON name columns of the tables. RIGHT then has the rows of LEFT with the tables exchanged, in the same order,
each row with the columns of the one table exchanged with those of the other. The rows of FULL and those of INNER are
together those of LEFT and those of RIGHT, each as often. -/
theorem Engine.join_kinds_consistent (texts : List String) {leftName rightName : String} {left right : Table}
    {on : JoinCondition} (found : (executed texts).get leftName = .ok left)
    (foundOther : (executed texts).get rightName = .ok right) (apart : Catalog.key leftName ≠ Catalog.key rightName)
    (known : on.first ∈ Relation.qualify leftName left.columnNames ++ Relation.qualify rightName right.columnNames)
    (knownSecond : on.second ∈ Relation.qualify leftName left.columnNames ++ Relation.qualify rightName right.columnNames) :
    let answer (kind : JoinKind) (one other : String) := ((Statement.query (.joined kind one other on)).run (executed texts)).1
    let leftColumns := Relation.qualify leftName left.columnNames
    let rightColumns := Relation.qualify rightName right.columnNames
    (∃ error, ∀ kind, answer kind leftName rightName = .error error) ∨
    ∃ (rows : JoinKind → List Row) (exchanged : List Row),
      (∀ kind, answer kind leftName rightName = .ok (.relation ⟨leftColumns ++ rightColumns, rows kind⟩)) ∧
      answer .left rightName leftName = .ok (.relation ⟨rightColumns ++ leftColumns, exchanged⟩) ∧
      rows .right = exchanged.map (JoinKind.exchange rightColumns.length) ∧
      (rows .full ++ rows .inner).Perm (rows .left ++ rows .right) := by
  intro answer leftColumns rightColumns
  obtain ⟨first, second, names⟩ := names_of_known found foundOther apart known knownSecond
  have answers (kind : JoinKind) : answer kind leftName rightName = _ := Query.run_joined found foundOther kind on
  have answerOther : answer .left rightName leftName = _ := Query.run_joined foundOther found .left on
  have valid {name : String} {table : Table} (found : (executed texts).get name = .ok table) : table.Valid :=
    (Catalog.get_valid (executed_valid texts) found).2
  rcases names.compared_or_fails (valid found) (valid foundOther) with compared | ⟨error, fails⟩
  · let pairs (one other : Row) : Bool := joins first second one other = .ok true
    have ran (kind : JoinKind) : answer kind leftName rightName = .ok (.relation ⟨leftColumns ++ rightColumns,
        kind.combine pairs left.columnNames.length right.columnNames.length left.rows right.rows⟩) := by
      rw [answers, names.join_succeeds compared]
      rfl
    have ranOther : answer .left rightName leftName = .ok (.relation ⟨rightColumns ++ leftColumns, JoinKind.left.combine
        (fun other one => pairs one other) right.columnNames.length left.columnNames.length right.rows left.rows⟩) := by
      rw [answerOther, names.exchange.join_succeeds fun other present one member => compared one member other present]
      rfl
    refine .inr ⟨_, _, ran, ranOther, ?_, JoinKind.full_and_inner _ _ _⟩
    have wide : rightColumns.length = right.columnNames.length := List.length_map _
    rw [wide]
    exact JoinKind.right_eq_left _ _ _ fun row present => right.length_of_mem_rows present
  · refine .inl ⟨error, fun kind => ?_⟩
    rw [answers, fails]
    rfl

/-- One row of each table has no partner; the other of U has two. -/
theorem Engine.lonely_rows_on_both_sides :
    let texts := ["CREATE TABLE T(A INT);", "INSERT INTO T VALUES(NULL);", "INSERT INTO T VALUES(1); INSERT INTO T VALUES(1);",
      "CREATE TABLE U(B INT, C TEXT);", "INSERT INTO U VALUES(2, 'Y');", "INSERT INTO U VALUES(1, 'X');"]
    let left : Table := ⟨"T", [⟨"A", .int, #[.null, .int 1, .int 1]⟩], 3⟩
    let right : Table := ⟨"U", [⟨"B", .int, #[.int 2, .int 1]⟩, ⟨"C", .text, #[.text "Y", .text "X"]⟩], 2⟩
    let on : JoinCondition := ⟨"U.B", "T.A"⟩
    let answer (kind : JoinKind) (one other : String) := ((Statement.query (.joined kind one other on)).run (executed texts)).1
    (executed texts).get "T" = .ok left ∧ (executed texts).get "U" = .ok right ∧
      answer .full "T" "U" = .ok (.relation ⟨["T.A", "U.B", "U.C"], [[.null, .null, .null], [.int 1, .int 1, .text "X"],
        [.int 1, .int 1, .text "X"], [.null, .int 2, .text "Y"]]⟩) ∧
      ∃ (rows : JoinKind → List Row) (exchanged : List Row),
        (∀ kind, answer kind "T" "U" = .ok (.relation ⟨["T.A", "U.B", "U.C"], rows kind⟩)) ∧
        answer .left "U" "T" = .ok (.relation ⟨["U.B", "U.C", "T.A"], exchanged⟩) ∧
        rows .right = exchanged.map (JoinKind.exchange 2) ∧ (rows .full ++ rows .inner).Perm (rows .left ++ rows .right) := by
  intro texts left right on answer
  obtain ⟨found, foundOther, ran⟩ : (executed texts).get "T" = .ok left ∧ (executed texts).get "U" = .ok right ∧
      answer .full "T" "U" = .ok (.relation ⟨["T.A", "U.B", "U.C"], [[.null, .null, .null], [.int 1, .int 1, .text "X"],
        [.int 1, .int 1, .text "X"], [.null, .int 2, .text "Y"]]⟩) := by
    decide +kernel
  refine ⟨found, foundOther, ran, ?_⟩
  have apart : Catalog.key "T" ≠ Catalog.key "U" := by decide +kernel
  have consistent := @join_kinds_consistent texts "T" "U" left right on found foundOther apart (by decide) (by decide)
  apply consistent.resolve_left
  rintro ⟨error, failed⟩
  cases ran.symm.trans (failed .full)

end MiniSql

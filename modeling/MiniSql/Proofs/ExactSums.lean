import Mathlib.Algebra.Order.BigOperators.Group.List
import Mathlib.Algebra.Order.Group.Int
import Mathlib.Algebra.Ring.Int.Defs
import MiniSql.Proofs.JoinMeaning
import MiniSql.Proofs.RelationSafety
import MiniSql.Proofs.TypeSoundness

/-! Sums over what texts have built. The loop tests every partial sum, but no integer in such a catalog is negative, so
the partial sums grow and the last is the one that counts: a sum fails only if it is itself too large, in whatever
order its rows come. -/

namespace MiniSql

/-- The error of a sum that is too large, or the exact sum, or the average rounded down. Over nothing both are NULL. -/
def AggregateFunction.exact (function : AggregateFunction) (numbers : List Int) : Except Error Value :=
  if maxInteger < numbers.sum then .error function.overflow
  else if numbers.isEmpty then .ok .null
  else .ok (.int (if function = .avg then numbers.sum.fdiv numbers.length else numbers.sum))

/-- Where nothing is negative, a partial sum that is too large is never made good. -/
theorem Value.sumFrom_eq {command : String} {total : Int} {numbers : List Int} (nonneg : 0 ≤ total)
    (fits : total ≤ maxInteger) (all : ∀ number ∈ numbers, 0 ≤ number) :
    sumFrom command total (numbers.map .int) =
      if maxInteger < total + numbers.sum then .error (.unsupportedValue (command ++ " overflows INT"))
      else .ok (total + numbers.sum) := by
  induction numbers generalizing total with
  | nil =>
    rw [List.sum_nil, Int.add_zero, if_neg (Int.not_lt.mpr fits)]
    rfl
  | cons number numbers ih =>
    obtain ⟨first, others⟩ := List.forall_mem_cons.mp all
    have rest : 0 ≤ numbers.sum := List.sum_nonneg others
    rw [List.map_cons, sumFrom, List.sum_cons, ← Int.add_assoc]
    by_cases inside : total + number ≤ maxInteger
    · have above : minInteger ≤ total + number := Int.le_trans (by decide) (Int.add_nonneg nonneg first)
      have next : fitsInteger (total + number) = true := by simp [fitsInteger, above, inside]
      rw [if_pos next, ih (Int.add_nonneg nonneg first) inside others]
    · have next : ¬ fitsInteger (total + number) = true := by simp [fitsInteger, inside]
      have beyond : maxInteger < total + number + numbers.sum := by omega
      rw [if_neg next, if_pos beyond]
      rfl

namespace AggregateFunction
variable {function : AggregateFunction} {numbers others : List Int}

private theorem apply_eq_exact (sums : function.Sums) (all : ∀ number ∈ numbers, 0 ≤ number) :
    function.apply (numbers.map .int) = function.exact numbers := by
  have nonneg : 0 ≤ numbers.sum := List.sum_nonneg all
  have summed : Value.sumFrom function.name 0 (numbers.map .int) = _ := Value.sumFrom_eq (Int.le_refl 0) (by decide) all
  rw [Int.zero_add] at summed
  cases numbers with
  | nil => rcases sums with rfl | rfl <;> rfl
  | cons number numbers =>
    have some : ¬ (List.map Value.int (number :: numbers)).isEmpty = true := by simp
    rcases sums with rfl | rfl
    · simp only [apply, exact, if_neg some, summed]
      split <;> rfl
    · simp only [apply, exact, if_neg some, summed, Value.average, List.length_map,
        Int.fdiv_eq_tdiv_of_nonneg nonneg (Int.natCast_nonneg _)]
      split <;> rfl

private theorem exact_perm (perm : numbers.Perm others) : function.exact numbers = function.exact others := by
  unfold exact
  rw [perm.sum_eq, perm.length_eq, perm.isEmpty_eq]

end AggregateFunction

def Value.int? : Value → Option Int
  | int number => some number
  | _ => none

def numbersOf (columns : List String) (rows : List Row) (name : String) : List Int :=
  (presentValues columns rows name).filterMap Value.int?

private theorem numbersOf_perm {rows others : List Row} (columns : List String) (name : String) (perm : rows.Perm others) :
    (numbersOf columns rows name).Perm (numbersOf columns others name) :=
  ((perm.map _).filter _).filterMap _

private theorem Table.row_of_mem_values {table : Table} {column : Column} {value : Value} (aligned : table.Aligned)
    (member : column ∈ table.columns) (inside : value ∈ column.values) : ∃ row ∈ table.rows, value ∈ row := by
  obtain ⟨position, present, rfl⟩ := Array.mem_iff_getElem.mp inside
  refine ⟨table.rowAt position, List.mem_map_of_mem (List.mem_range.mpr (aligned column member ▸ present)), ?_⟩
  refine List.mem_map.mpr ⟨column, member, ?_⟩
  rw [Array.getD_eq_getD_getElem?, Array.getElem?_eq_getElem present]
  rfl

namespace Relation
variable {relation left right result : Relation} {columns : List ColumnDef}

def Written (relation : Relation) : Prop := ∀ row ∈ relation.rows, ∀ value ∈ row, value.Written

private theorem Written.of_subset {rows : List Row} (written : relation.Written) (known : rows ⊆ relation.rows) :
    Written { relation with rows } :=
  fun row member => written row (known member)

private theorem nulls_written (width : Nat) : ∀ value ∈ nulls width, value.Written := by
  intro value member
  rw [List.eq_of_mem_replicate member]
  exact .null

private theorem join_written {kind : JoinKind} {leftTable rightTable : String} {on : JoinCondition} (written : left.Written)
    (writtenRight : right.Written) (done : join kind leftTable left rightTable right on = .ok result) : result.Written := by
  obtain ⟨_, _, done⟩ := Except.bind_eq_ok.mp done
  obtain ⟨_, _, done⟩ := Except.bind_eq_ok.mp done
  obtain ⟨rows, joined, same⟩ := Except.bind_eq_ok.mp done
  cases same
  intro row member
  change row ∈ rows at member
  rw [joinRows_eq_ok joined] at member
  obtain ⟨one, other, rfl, first, second⟩ := JoinKind.mem_combine member
  refine List.forall_mem_append.mpr ⟨?_, ?_⟩
  · rcases first with present | rfl
    · exact written one present
    · exact nulls_written _
  · rcases second with present | rfl
    · exact writtenRight other present
    · exact nulls_written _

theorem HasType.cell {name : String} {datatype : Datatype} {row : Row} (typed : relation.HasType columns)
    (known : typeOf? columns name = some datatype) (member : row ∈ relation.rows) :
    row.cell (relation.columns.idxOf name) = .ok (row.value relation.columns name) ∧
      (row.value relation.columns name).fits datatype := by
  obtain ⟨value, read, fits⟩ := (typed.rows row member).cell known
  rw [← typed.names] at read
  rw [Row.value_of_cell read]
  exact ⟨read, fits⟩

private theorem HasType.presentValues_eq {name : String} (typed : relation.HasType columns) (written : relation.Written)
    (known : typeOf? columns name = some .int) :
    presentValues relation.columns relation.rows name = (numbersOf relation.columns relation.rows name).map .int ∧
      ∀ number ∈ numbersOf relation.columns relation.rows name, 0 ≤ number := by
  have naturals : ∀ value ∈ presentValues relation.columns relation.rows name,
      ∃ number : Int, value = .int number ∧ 0 ≤ number := by
    intro value member
    obtain ⟨inside, present⟩ := List.mem_filter.mp member
    obtain ⟨row, rowMember, rfl⟩ := List.mem_map.mp inside
    obtain ⟨read, fits⟩ := typed.cell known rowMember
    have own := written row rowMember _ (List.mem_of_getElem? (Row.cell_eq_ok.mp read))
    generalize row.value relation.columns name = value at own present fits
    cases own with
    | null => simp at present
    | int nonneg bounded => exact ⟨_, rfl, nonneg⟩
    | text scanned => cases fits
  unfold numbersOf
  generalize presentValues relation.columns relation.rows name = values at naturals
  induction values with
  | nil => exact ⟨rfl, List.forall_mem_nil _⟩
  | cons value values ih =>
    obtain ⟨⟨number, rfl, nonneg⟩, others⟩ := List.forall_mem_cons.mp naturals
    obtain ⟨same, all⟩ := ih others
    exact ⟨congrArg (_ :: ·) same, List.forall_mem_cons.mpr ⟨nonneg, all⟩⟩

private theorem HasType.aggregateTerm_exact {term : AggregateTerm} (typed : relation.HasType columns) (written : relation.Written)
    (table : String) (sums : term.function.Sums) (known : typeOf? columns term.column = some .int) :
    relation.aggregateTerm table term = term.function.exact (numbersOf relation.columns relation.rows term.column) := by
  obtain ⟨same, nonneg⟩ := typed.presentValues_eq written known
  have found := position_of_typeOf? table known
  rw [← typed.names] at found
  have read : relation.rows.mapM (fun row => row.cell (relation.columns.idxOf term.column)) =
      .ok (relation.rows.map fun row => row.value relation.columns term.column) :=
    Except.mapM_of_forall fun row member => (typed.cell known member).1
  rw [aggregateTerm, found]
  simp only [bind, Except.bind, read]
  rw [← term.function.apply_eq_exact sums nonneg, ← same]
  rfl

private theorem HasType.aggregate_exact {terms : List AggregateTerm} (typed : relation.HasType columns) (written : relation.Written)
    (table : String) (summed : ∀ term ∈ terms, term.function.Sums ∧ typeOf? columns term.column = some .int) :
    relation.aggregate table terms = (fun cells => ⟨terms.map AggregateTerm.render, [cells]⟩) <$>
      terms.mapM fun term => term.function.exact (numbersOf relation.columns relation.rows term.column) := by
  have each : terms.mapM (relation.aggregateTerm table) =
      terms.mapM fun term => term.function.exact (numbersOf relation.columns relation.rows term.column) :=
    Except.mapM_congr fun term member => typed.aggregateTerm_exact written table (summed term member).1 (summed term member).2
  rw [Relation.aggregate, each, map_eq_pure_bind]

end Relation

/-- The columns of the rows that a SELECT reads, as they are declared. -/
def Select.declared (catalog : Catalog) (select : Select) : Except Error (List ColumnDef) := do
  let own ← catalog.get select.table
  match select.join with
  | none => return own.schema
  | some join => return joinedColumns select.table own.schema join.table (← catalog.get join.table).schema

/-- The query for the rows from which a query makes its columns. -/
def Query.input (query : Query) : Query :=
  ⟨{ query.select with projection := .all, distinct := false }, query.filter, query.order, none, none⟩

namespace Query
variable {catalog : Catalog} {query : Query} {columns : List ColumnDef} {own source : Relation}

private theorem source_written (valid : catalog.Valid) (written : catalog.contents.Written) {select : Select}
    (declared : select.declared catalog = .ok columns) (read : catalog.contents.source select = .ok own) :
    own.HasType columns ∧ own.Written := by
  have typed {name : String} {table : Table} (found : catalog.get name = .ok table) :
      Relation.HasType ⟨table.columnNames, table.rows⟩ table.schema ∧ Relation.Written ⟨table.columnNames, table.rows⟩ := by
    have kind := (Catalog.get_valid valid found).2.hasType
    rw [table.toRelation_contents] at kind
    exact ⟨kind, (Catalog.table_written written (Catalog.get_eq_ok.mp found)).cells⟩
  unfold Select.declared at declared
  cases Select.source_of_contents read with
  | table single found =>
    simp only [found, single, bind, Except.bind] at declared
    cases declared
    exact typed found
  | @join other left right _ both found foundOther joined =>
    simp only [found, both, foundOther, bind, Except.bind] at declared
    cases declared
    have safe := (typed found).1.join_safe (typed foundOther).1 Error.ordinary_permits other.kind select.table other.table
      other.on (Error.ordinary_reports _ _)
    exact ⟨(safe.result joined).2, Relation.join_written (typed found).2 (typed foundOther).2 joined⟩

private theorem input_eq_ok {database : RowDatabase} (read : database.answer query.input = .ok source) :
    ∃ own kept, database.source query.select = .ok own ∧ RowDatabase.keep query.select.table own query.filter = .ok kept ∧
      RowDatabase.order query.select.table kept query.order = .ok source := by
  obtain ⟨_, _, read⟩ := Except.bind_eq_ok.mp read
  obtain ⟨own, found, read⟩ := Except.bind_eq_ok.mp read
  obtain ⟨kept, passed, read⟩ := Except.bind_eq_ok.mp read
  obtain ⟨sorted, arranged, same⟩ := Except.bind_eq_ok.mp read
  cases same
  exact ⟨own, kept, found, passed, arranged⟩

private theorem input_written (valid : catalog.Valid) (written : catalog.contents.Written)
    (declared : query.select.declared catalog = .ok columns) (read : catalog.contents.answer query.input = .ok source) :
    source.HasType columns ∧ source.Written := by
  obtain ⟨own, kept, found, passed, arranged⟩ := input_eq_ok read
  obtain ⟨typed, ownWritten⟩ := source_written valid written declared found
  have keptTyped : kept.HasType columns ∧ kept.Written := by
    rw [filtered_of_keep passed]
    have known : query.filtered own ⊆ own.rows := by
      unfold filtered
      split
      · exact List.filter_subset_self _
      · exact List.Subset.refl _
    exact ⟨typed.of_subset known, ownWritten.of_subset known⟩
  unfold RowDatabase.order at arranged
  split at arranged
  next =>
    cases arranged
    exact keptTyped
  next =>
    obtain ⟨same, stable⟩ := Relation.sort_eq_ok arranged
    have safe := keptTyped.1.sort_safe query.select.table query.order (Error.ordinary_reports _ _)
    exact ⟨(safe.result arranged).2, fun row member => keptTyped.2 row (stable.perm.subset member)⟩

/-- A query that makes one row does not make it twice. -/
theorem firstRows_window (query : Query) (row : Row) : firstRows (query.window [row]) = query.window [row] := by
  unfold window
  rw [rowsAt_cons]
  split
  · rw [show rowsAt _ [] = [] from rfl, List.append_nil, firstRows, rowsAt_cons]
    simp [rowsAt]
  · rfl

private theorem answer_sums {database : RowDatabase} {terms : List AggregateTerm}
    (asks : query.select.projection = .items (terms.map .aggregate)) (some : terms ≠ [])
    (read : database.answer query.input = .ok source) :
    database.answer query = (fun result => ⟨result.columns, query.window result.rows⟩) <$>
      source.aggregate query.select.table terms := by
  obtain ⟨own, kept, found, passed, arranged⟩ := input_eq_ok read
  have unmixed : RowDatabase.checkProjection query.select.projection = .ok () := by
    rw [asks]
    exact if_pos (.inl (by rw [Projection.columns_of_terms]; rfl))
  have chosen : RowDatabase.choose query.select.table source query.select.projection =
      source.aggregate query.select.table terms := by
    rw [asks, RowDatabase.choose, Projection.terms_of_terms]
    obtain ⟨term, rest, rfl⟩ := List.exists_cons_of_ne_nil some
    rfl
  simp only [RowDatabase.answer, unmixed, found, passed, arranged, chosen, bind, Except.bind, window_of_first]
  cases computed : source.aggregate query.select.table terms with
  | error error => rfl
  | ok result =>
    obtain ⟨cells, rfl, _⟩ := Relation.aggregate_eq_ok computed
    refine congrArg Except.ok ?_
    simp only [Relation.distinct_eq, query.firstRows_window, ite_self]

end Query

/-- Integers that texts have brought into a catalog are natural numbers, so that sums of them are exact: whatever the
order of the rows, a query for sums and averages of integers fails only where a sum is too large. -/
theorem Engine.sums_exact (texts : List String) :
    (∀ entry ∈ (executed texts).entries, ∀ column ∈ entry.2.columns, ∀ number : Int, .int number ∈ column.values →
      0 ≤ number ∧ number ≤ maxInteger) ∧
    ∀ (query : Query) (terms : List AggregateTerm) (columns : List ColumnDef) (source : Relation),
      query.select.projection = .items (terms.map .aggregate) → terms ≠ [] →
      query.select.declared (executed texts) = .ok columns →
      (∀ term ∈ terms, term.function.Sums ∧ typeOf? columns term.column = some .int) →
      ((Statement.query query.input).run (executed texts)).1 = .ok (.relation source) →
      let sums := terms.mapM fun term => term.function.exact (numbersOf source.columns source.rows term.column)
      (∀ term ∈ terms, presentValues source.columns source.rows term.column =
        (numbersOf source.columns source.rows term.column).map .int) ∧
      ((Statement.query query).run (executed texts)).1 =
        (fun cells => .relation ⟨terms.map AggregateTerm.render, query.window [cells]⟩) <$> sums ∧
      ∀ rows, rows.Perm source.rows → Relation.aggregate ⟨source.columns, rows⟩ query.select.table terms =
        (fun cells => ⟨terms.map AggregateTerm.render, [cells]⟩) <$> sums := by
  have valid := executed_valid texts
  have written := executed_written texts
  constructor
  · intro entry member column inside number present
    have found := Catalog.mem_entries_iff.mp member
    obtain ⟨row, rowMember, cell⟩ := Table.row_of_mem_values (valid.tables entry member).aligned inside present
    cases (Catalog.table_written written found).cells row rowMember _ cell with
    | int nonneg bounded => exact ⟨nonneg, bounded⟩
  · intro query terms columns source asks some declared summed ran sums
    rw [Statement.run_query] at ran
    obtain ⟨_, read, same⟩ := Except.map_eq_ok.mp ran
    cases same
    obtain ⟨typed, sourceWritten⟩ := Query.input_written valid written declared read
    refine ⟨fun term member => (typed.presentValues_eq sourceWritten (summed term member).2).1, ?_, fun rows perm => ?_⟩
    · rw [Statement.run_query, Query.answer_sums asks some read, typed.aggregate_exact sourceWritten _ summed]
      simp only [Functor.map_map]
      rfl
    · have shuffled := typed.of_subset perm.subset
      rw [shuffled.aggregate_exact (sourceWritten.of_subset perm.subset) _ summed]
      refine congrArg _ (Except.mapM_congr fun term member => ?_)
      exact AggregateFunction.exact_perm (numbersOf_perm _ _ perm)

/-- The largest sum there can be, and an average that is rounded. -/
theorem Engine.largest_sum :
    let texts := ["CREATE TABLE T(A INT);", "INSERT INTO T VALUES(NULL);", "INSERT INTO T VALUES(9223372036854775806);",
      "INSERT INTO T VALUES(1);"]
    let terms : List AggregateTerm := [⟨.sum, "A"⟩, ⟨.avg, "A"⟩]
    let query : Query := ⟨⟨"T", .items (terms.map .aggregate), false, none⟩, none, [⟨"A", .ascending⟩], none, none⟩
    let source : Relation := ⟨["A"], [[.null], [.int 1], [.int 9223372036854775806]]⟩
    query.select.declared (executed texts) = .ok [⟨"A", .int⟩] ∧
      ((Statement.query query.input).run (executed texts)).1 = .ok (.relation source) ∧
      ((Statement.query query).run (executed texts)).1 =
        .ok (.relation ⟨["SUM(A)", "AVG(A)"], [[.int maxInteger, .int 4611686018427387903]]⟩) := by
  intro texts terms query source
  obtain ⟨declared, ran⟩ : query.select.declared (executed texts) = .ok [⟨"A", .int⟩] ∧
      ((Statement.query query.input).run (executed texts)).1 = .ok (.relation source) := by
    decide +kernel
  have summed : ∀ term ∈ terms, term.function.Sums ∧ typeOf? [⟨"A", .int⟩] term.column = some .int := by
    simp [terms, AggregateFunction.Sums, typeOf?]
  have answer := ((sums_exact texts).2 query terms _ source rfl (by simp [terms]) declared summed ran).2.1
  exact ⟨declared, ran, answer.trans (by decide +kernel)⟩

end MiniSql

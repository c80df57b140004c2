import MiniSql.Proofs.RowOrder
import MiniSql.Proofs.RowRefinement

/-! What a SELECT means, stage by stage on plain lists of rows: WHERE first, then ORDER BY, then the chosen columns
or aggregates, then the window, and DISTINCT last. A query that gives rows gives these. -/

namespace MiniSql

/-- The rows a SELECT reads, those of its table or of a join. -/
inductive Select.Source (catalog : Catalog) (select : Select) : Relation → Prop
  | table {table : Table} (single : select.join = none) (found : catalog.get select.table = .ok table) :
    Source catalog select ⟨table.columnNames, table.rows⟩
  | join {other : Join} {left right : Table} {source : Relation} (both : select.join = some other)
      (found : catalog.get select.table = .ok left) (foundOther : catalog.get other.table = .ok right)
      (joined : Relation.join other.kind select.table ⟨left.columnNames, left.rows⟩ other.table
        ⟨right.columnNames, right.rows⟩ other.on = .ok source) :
    Source catalog select source

/-- The values of a column that are not NULL. -/
def presentValues (columns : List String) (rows : List Row) (name : String) : List Value :=
  (rows.map fun row => row.value columns name).filter (· ≠ .null)

/-- What a projection makes of rows. Aggregates make one row of all of them. -/
inductive Projection.Chooses (columns : List String) (rows : List Row) : Projection → Relation → Prop
  | all : Chooses columns rows .all ⟨columns, rows⟩
  | columns {names : List String} (known : ∀ name ∈ names, name ∈ columns) :
    Chooses columns rows (.items (names.map .column))
      ⟨names, rows.map fun row => names.map fun name => row.value columns name⟩
  | aggregates {terms : List AggregateTerm} {cells : Row} (any : terms ≠ [])
      (known : ∀ term ∈ terms, term.column ∈ columns)
      (computed : List.Forall₂
        (fun term cell => term.function.apply (presentValues columns rows term.column) = .ok cell) terms cells) :
    Chooses columns rows (.items (terms.map .aggregate)) ⟨terms.map AggregateTerm.render, [cells]⟩

/-- The rows at the positions that pass a test. -/
def rowsAt (test : Nat → Bool) (rows : List Row) : List Row :=
  (rows.zipIdx.filter fun entry => test entry.2).map Prod.fst

/-- The rows that do not stand at an earlier position too. -/
def firstRows (rows : List Row) : List Row :=
  rowsAt (fun index => ∀ earlier < index, rows[earlier]? ≠ rows[index]?) rows

namespace Query

/-- The rows for which WHERE evaluates to true. -/
def filtered (query : Query) (source : Relation) : List Row :=
  match query.filter with
  | some condition => source.rows.filter fun row => condition.holds query.select.table source.columns row = .ok true
  | none => source.rows

/-- These in the order of ORDER BY. Rows that are equal in it stay as they come. -/
def ordered (query : Query) (source : Relation) : List Row :=
  if query.order.isEmpty then query.filtered source
  else (query.filtered source).mergeSort fun first second => (rowOrder source.columns query.order first second).isLE

/-- The rows from the offset on, up to the limit. -/
def window (query : Query) (rows : List Row) : List Row :=
  rowsAt (fun index => query.offset.getD 0 ≤ index ∧ ∀ count ∈ query.limit, index < query.offset.getD 0 + count) rows

/-- The result of a query whose source is known. -/
def Means (query : Query) (source result : Relation) : Prop :=
  ∃ rows, query.select.projection.Chooses source.columns (query.ordered source) ⟨result.columns, rows⟩ ∧
    result.rows = if query.select.distinct then firstRows (query.window rows) else query.window rows

private theorem ordered_stable (query : Query) (source : Relation) :
    StableSort (rowOrder source.columns query.order) (query.filtered source) (query.ordered source) := by
  unfold ordered
  split
  next unordered =>
    rw [List.isEmpty_iff.mp unordered]
    exact ⟨.refl _, List.pairwise_of_forall fun _ _ => rfl, fun _ => rfl⟩
  next => exact StableSort.mergeSort _ _

end Query

theorem rowsAt_cons (test : Nat → Bool) (row : Row) (rows : List Row) :
    rowsAt test (row :: rows) =
      (if test 0 then [row] else []) ++ rowsAt (fun index => test (index + 1)) rows := by
  unfold rowsAt
  rw [List.zipIdx_cons, List.filter_cons, List.zipIdx_succ, List.filter_map]
  split <;> simp [Function.comp_def]

private theorem rowsAt_all (rows : List Row) : rowsAt (fun _ => true) rows = rows := by
  simp [rowsAt]

private theorem rowsAt_below (count : Nat) (rows : List Row) : rowsAt (fun index => index < count) rows = rows.take count := by
  induction rows generalizing count with
  | nil => simp [rowsAt]
  | cons row rows ih =>
    rw [rowsAt_cons]
    cases count with
    | zero => simpa using ih 0
    | succ count => simpa using ih count

private theorem rowsAt_from (start : Nat) (test : Nat → Bool) (rows : List Row) :
    rowsAt (fun index => start ≤ index ∧ test (index - start)) rows = rowsAt test (rows.drop start) := by
  induction start generalizing rows with
  | zero => simp
  | succ start ih =>
    cases rows with
    | nil => rfl
    | cons row rows =>
      rw [rowsAt_cons, List.drop_succ_cons, ← ih]
      simp

theorem window_eq (query : Query) (rows : List Row) :
    query.window rows = (match query.limit with
      | some count => (rows.drop (query.offset.getD 0)).take count
      | none => rows.drop (query.offset.getD 0)) := by
  unfold Query.window
  cases query.limit with
  | none => simpa [rowsAt_all] using rowsAt_from (query.offset.getD 0) (fun _ => true) rows
  | some count =>
    simp only
    rw [← rowsAt_below, ← rowsAt_from]
    refine congrArg (rowsAt · rows) (funext fun index => ?_)
    simp only [Option.mem_def, Option.some.injEq, forall_eq', decide_eq_true_eq, decide_eq_decide]
    omega

private theorem firstOccurrences_eq (seen rows : List Row) :
    Relation.firstOccurrences seen rows =
      rowsAt (fun index => (∀ row ∈ rows[index]?, row ∉ seen) ∧ ∀ earlier < index, rows[earlier]? ≠ rows[index]?) rows := by
  induction rows generalizing seen with
  | nil => rfl
  | cons row rows ih =>
    rw [rowsAt_cons, Relation.firstOccurrences]
    simp only [Nat.forall_lt_succ_left, List.getElem?_cons_succ, List.getElem?_cons_zero]
    split
    next known =>
      rw [ih, if_neg (by simp [known]), List.nil_append]
      refine congrArg (rowsAt · rows) (funext fun index => ?_)
      cases rows[index]? with
      | none => simp
      | some other => grind
    next new =>
      rw [ih, if_pos (by simp [new])]
      refine congrArg (fun test => row :: rowsAt test rows) (funext fun index => ?_)
      cases rows[index]? with
      | none => simp
      | some other =>
        have turned : row = other ↔ other = row := eq_comm
        simp only [Option.mem_def, Option.some.injEq, forall_eq', List.mem_cons, not_or, ne_eq, turned]
        grind

namespace Relation

theorem keep_eq_ok {test : Row → Except Error Bool} {rows kept : List Row} (done : keep test rows = .ok kept) :
    kept = rows.filter fun row => test row = .ok true := by
  induction rows generalizing kept with
  | nil => exact (Except.ok.inj done).symm
  | cons row rows ih =>
    obtain ⟨passed, tested, done⟩ := Except.bind_eq_ok.mp done
    cases passed with
    | true =>
      obtain ⟨rest, remaining, same⟩ := Except.bind_eq_ok.mp done
      rw [← Except.ok.inj same, ih remaining, List.filter_cons_of_pos (by simp [tested])]
    | false => rw [ih done, List.filter_cons_of_neg (by simp [tested])]

theorem sort_eq_ok {relation sorted : Relation} {table : String} {keys : List SortKey}
    (done : relation.sort table keys = .ok sorted) :
    sorted.columns = relation.columns ∧ StableSort (rowOrder relation.columns keys) relation.rows sorted.rows := by
  obtain ⟨positions, resolved, done⟩ := Except.bind_eq_ok.mp done
  obtain ⟨rows, sortedRows, same⟩ := Except.bind_eq_ok.mp done
  cases same
  rw [sortPositions_of_mapM resolved] at sortedRows
  exact ⟨rfl, sortRows_eq_ok sortedRows⟩

theorem cell_of_position {table : String} {columns : List String} {name : String} {index : Nat} {row : Row} {value : Value}
    (found : columnPosition table columns name = .ok index) (read : row.cell index = .ok value) :
    row.value columns name = value := by
  rw [(columnPosition_eq_ok.mp found).2] at read
  exact Row.value_of_cell read

private theorem project_eq_ok {relation result : Relation} {table : String} {names : List String}
    (done : relation.project table names = .ok result) :
    (∀ name ∈ names, name ∈ relation.columns) ∧
      result = ⟨names, relation.rows.map fun row => names.map fun name => row.value relation.columns name⟩ := by
  obtain ⟨positions, resolved, done⟩ := Except.bind_eq_ok.mp done
  obtain ⟨rows, computed, same⟩ := Except.bind_eq_ok.mp done
  cases same
  have places : positions = names.map fun name => relation.columns.idxOf name :=
    Except.eq_map_of_mapM (fun name index found => (columnPosition_eq_ok.mp found).2.symm) resolved
  have values (row : Row) :
      names.map (fun name => row.value relation.columns name) = positions.map fun index => row.getD index .null := by
    rw [places, List.map_map]
    rfl
  constructor
  · intro name member
    obtain ⟨index, _, found⟩ := Except.result_of_mapM resolved member
    exact (columnPosition_eq_ok.mp found).1
  · refine congrArg _ (Except.eq_map_of_mapM (fun row cells read => ?_) computed)
    rw [values, ← Except.eq_map_of_mapM (fun index value => Row.getD_of_cell) read]

theorem aggregateTerm_eq_ok {relation : Relation} {table : String} {term : AggregateTerm} {cell : Value}
    (done : relation.aggregateTerm table term = .ok cell) :
    term.column ∈ relation.columns ∧
      term.function.apply (presentValues relation.columns relation.rows term.column) = .ok cell := by
  obtain ⟨index, found, done⟩ := Except.bind_eq_ok.mp done
  obtain ⟨cells, read, computed⟩ := Except.bind_eq_ok.mp done
  refine ⟨(columnPosition_eq_ok.mp found).1, ?_⟩
  rw [Except.eq_map_of_mapM (fun row value => cell_of_position found) read] at computed
  exact computed

theorem aggregate_eq_ok {relation result : Relation} {table : String} {terms : List AggregateTerm}
    (done : relation.aggregate table terms = .ok result) :
    ∃ cells, result = ⟨terms.map AggregateTerm.render, [cells]⟩ ∧ (∀ term ∈ terms, term.column ∈ relation.columns) ∧
      List.Forall₂ (fun term cell =>
        term.function.apply (presentValues relation.columns relation.rows term.column) = .ok cell) terms cells := by
  obtain ⟨cells, computed, same⟩ := Except.bind_eq_ok.mp done
  cases same
  have pairs := Except.forall₂_of_mapM computed
  refine ⟨cells, rfl, fun term member => ?_, pairs.imp fun _ _ found => (aggregateTerm_eq_ok found).2⟩
  obtain ⟨cell, _, found⟩ := Except.result_of_mapM computed member
  exact (aggregateTerm_eq_ok found).1

end Relation

namespace Projection

private theorem columns_of_no_term {items : List SelectItem} (none : items.filterMap Plan.term? = []) :
    items = (items.filterMap Plan.column?).map .column := by
  induction items with
  | nil => rfl
  | cons item items ih =>
    cases item with
    | column name => exact congrArg _ (ih none)
    | aggregate term => cases none

private theorem terms_of_no_column {items : List SelectItem} (none : items.filterMap Plan.column? = []) :
    items = (items.filterMap Plan.term?).map .aggregate := by
  induction items with
  | nil => rfl
  | cons item items ih =>
    cases item with
    | column name => cases none
    | aggregate term => exact congrArg _ (ih none)

private theorem chooses_of_choose {projection : Projection} {table : String} {rows result : Relation}
    (unmixed : RowDatabase.checkProjection projection = .ok ())
    (done : RowDatabase.choose table rows projection = .ok result) :
    projection.Chooses rows.columns rows.rows result := by
  cases projection with
  | all =>
    cases done
    exact .all
  | items items =>
    simp only [RowDatabase.choose] at done
    split at done
    next none =>
      obtain ⟨known, rfl⟩ := Relation.project_eq_ok done
      rw [congrArg Projection.items (columns_of_no_term none)]
      exact .columns known
    next mixed =>
      have none : items.filterMap Plan.column? = [] := by
        simp only [RowDatabase.checkProjection] at unmixed
        split at unmixed
        next one => simpa using one.resolve_right (by simpa using mixed)
        next => cases unmixed
      obtain ⟨cells, rfl, known, computed⟩ := Relation.aggregate_eq_ok done
      rw [congrArg Projection.items (terms_of_no_column none)]
      exact .aggregates mixed known computed

end Projection

theorem Select.source_of_contents {catalog : Catalog} {select : Select} {source : Relation}
    (done : catalog.contents.source select = .ok source) : select.Source catalog source := by
  obtain ⟨own, found, done⟩ := Except.bind_eq_ok.mp done
  rw [Catalog.table_contents] at found
  obtain ⟨table, stored, rfl⟩ := Except.map_eq_ok.mp found
  rw [table.toRelation_contents] at done
  split at done
  next single =>
    cases done
    exact .table single stored
  next other both =>
    obtain ⟨second, foundOther, joined⟩ := Except.bind_eq_ok.mp done
    rw [Catalog.table_contents] at foundOther
    obtain ⟨right, storedOther, rfl⟩ := Except.map_eq_ok.mp foundOther
    rw [right.toRelation_contents] at joined
    exact .join both stored storedOther joined

namespace Query

variable {query : Query} {source kept sorted : Relation}

theorem filtered_of_keep (done : RowDatabase.keep query.select.table source query.filter = .ok kept) :
    kept = ⟨source.columns, query.filtered source⟩ := by
  unfold RowDatabase.keep at done
  unfold filtered
  generalize query.filter = filter at done
  cases filter with
  | none => exact (Except.ok.inj done).symm
  | some condition =>
    obtain ⟨_, _, done⟩ := Except.bind_eq_ok.mp done
    obtain ⟨rows, passed, same⟩ := Except.bind_eq_ok.mp done
    rw [← Except.ok.inj same, Relation.keep_eq_ok passed]

/-- There is only one stable way to sort. -/
theorem ordered_of_order
    (done : RowDatabase.order query.select.table ⟨source.columns, query.filtered source⟩ query.order = .ok sorted) :
    sorted = ⟨source.columns, query.ordered source⟩ := by
  have stable := query.ordered_stable source
  unfold RowDatabase.order at done
  split at done
  next unordered => rw [← Except.ok.inj done, ordered, if_pos unordered]
  next =>
    obtain ⟨columns, rows⟩ := sorted
    obtain ⟨rfl, own⟩ := Relation.sort_eq_ok done
    exact congrArg _ (own.unique stable)

theorem window_of_first (query : Query) (rows : Relation) :
    RowDatabase.first (rows.offset (query.offset.getD 0)) query.limit = ⟨rows.columns, query.window rows.rows⟩ := by
  rw [window_eq]
  cases query.limit <;> rfl

end Query

theorem Relation.distinct_eq (relation : Relation) : relation.distinct = ⟨relation.columns, firstRows relation.rows⟩ := by
  unfold Relation.distinct firstRows
  rw [firstOccurrences_eq]
  simp

/-- A SELECT that succeeds gives what its reference query gives on the rows of its source. -/
theorem Statement.query_means {query : Query} {catalog after : Catalog} {outcome : Outcome}
    (ran : (Statement.query query).run catalog = (.ok outcome, after)) :
    ∃ source result, query.select.Source catalog source ∧ query.Means source result ∧ outcome = .relation result := by
  rw [Statement.run_query] at ran
  obtain ⟨result, answered, rfl⟩ := Except.map_eq_ok.mp (Prod.ext_iff.mp ran).1
  obtain ⟨_, unmixed, answered⟩ := Except.bind_eq_ok.mp answered
  obtain ⟨source, read, answered⟩ := Except.bind_eq_ok.mp answered
  obtain ⟨kept, passed, answered⟩ := Except.bind_eq_ok.mp answered
  obtain ⟨sorted, arranged, answered⟩ := Except.bind_eq_ok.mp answered
  obtain ⟨chosen, projected, same⟩ := Except.bind_eq_ok.mp answered
  obtain rfl := Query.filtered_of_keep passed
  obtain rfl := Query.ordered_of_order arranged
  have chooses := Projection.chooses_of_choose unmixed projected
  refine ⟨source, result, Select.source_of_contents read, ⟨chosen.rows, ?_⟩, rfl⟩
  rw [← Except.ok.inj same, query.window_of_first]
  split
  next => exact ⟨chooses, by rw [Relation.distinct_eq]⟩
  next => exact ⟨chooses, rfl⟩

/-- The sort key is not among the chosen columns, the row left out by WHERE would be the first in the window, and the
window shows one value twice. -/
theorem Statement.window_means :
    let numbers : Column := ⟨"A", .int, #[.int 3, .int 1, .int 2, .int 2, .null]⟩
    let letters : Column := ⟨"B", .text, #[.text "X", .text "Y", .text "Z", .text "X", .text "X"]⟩
    let catalog := Catalog.empty.put "T" ⟨"T", [numbers, letters], 5⟩
    let query : Query := ⟨⟨"T", .items [.column "B"], true, none⟩, some (.compare "B" .notEqual ⟨.ident, "Z"⟩),
      [⟨"A", .descending⟩], some 3, some 1⟩
    ((Statement.query query).run catalog).1 = .ok (.relation ⟨["B"], [[.text "X"], [.text "Y"]]⟩) ∧
      ∃ source result, query.select.Source catalog source ∧ query.Means source result ∧
        Outcome.relation ⟨["B"], [[.text "X"], [.text "Y"]]⟩ = .relation result := by
  intro numbers letters catalog query
  have answer : ((Statement.query query).run catalog).1 = .ok (.relation ⟨["B"], [[.text "X"], [.text "Y"]]⟩) := by
    decide +kernel
  exact ⟨answer, query_means (Prod.ext answer rfl)⟩

end MiniSql

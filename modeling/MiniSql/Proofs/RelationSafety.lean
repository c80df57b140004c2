import MiniSql.Proofs.TypedRelation

/-! Typed relations are safe to work on, whatever is asked. An operation that names what does not exist or compares
what it may not fails with an error about the request; it never asks for a cell outside a row, and in sorting and
in the search for an extreme it never meets two values without an order. What it gives is typed again. -/

namespace MiniSql

/-- The commands that put values in order. -/
def orderings : List String := ["ORDER BY", AggregateFunction.min.name, AggregateFunction.max.name]

/-- The failures that only data out of order could bring about. -/
def Error.Broken : Error → Prop
  | .cellOutOfRange => True
  | .valueType _ _ command => command ∈ orderings
  | _ => False

/-- A failure that answers for what was asked. -/
def Error.Ordinary (error : Error) : Prop := ¬ error.Broken

/-- The ordinary failures that are not about a name. -/
def Error.Plain : Error → Prop
  | .unknownTable _ => False
  | .unknownColumn _ _ => False
  | error => error.Ordinary

/-- All of these are among the failures of some kind. -/
def Error.Permits (failure : Error → Prop) : Prop := ∀ error, error.Plain → failure error

/-- That one of these names is not a column is among them. -/
def Error.Reports (failure : Error → Prop) (columns names : List String) : Prop :=
  ∀ name ∈ names, name ∉ columns → ∀ table, failure (.unknownColumn table name)

variable {failure : Error → Prop}

theorem Error.Reports.of_subset {columns names others : List String} (reports : Reports failure columns names)
    (known : others ⊆ names) : Reports failure columns others :=
  fun name member => reports name (known member)

theorem Error.ordinary_permits : Permits Ordinary := by
  intro error plain
  unfold Plain at plain
  split at plain
  · exact plain.elim
  · exact plain.elim
  · exact plain

theorem Error.ordinary_reports (columns names : List String) : Reports Ordinary columns names := fun _ _ _ _ => id

theorem columnPosition_ends (table : String) {columns names : List String} (reports : Error.Reports failure columns names)
    {name : String} (named : name ∈ names) :
    Except.Ends (columnPosition table columns name) (fun index => name ∈ columns ∧ index = columns.idxOf name) failure := by
  by_cases member : name ∈ columns
  · rw [columnPosition_of_mem table member]
    exact .ok ⟨member, rfl⟩
  · rw [columnPosition, List.idxOf?_eq_none_iff.mpr member]
    exact .error (reports name named member table)

theorem Row.cell_ends {columns : List String} {column : String} {index : Nat} (row : Row)
    (long : row.length = columns.length) (found : column ∈ columns ∧ index = columns.idxOf column) :
    Except.Ends (row.cell index) (fun _ => True) failure := by
  obtain ⟨member, rfl⟩ := found
  exact .of_returns ⟨_, Row.cell_of_mem long member, trivial⟩

/-- Relations whose rows have one value for each column, the values of a column being of one type. -/
structure Relation.Regular (relation : Relation) : Prop where
  lengths : ∀ row ∈ relation.rows, row.length = relation.columns.length
  types : ∀ first ∈ relation.rows, ∀ second ∈ relation.rows, ∀ (index : Nat) (one other : Value),
    first[index]? = some one → second[index]? = some other → one ≠ .null → other ≠ .null → one.datatype? = other.datatype?

theorem Relation.Regular.comparable {relation : Relation} (regular : relation.Regular) {first second : Row} {index : Nat}
    {one other : Value} (member : first ∈ relation.rows) (memberSecond : second ∈ relation.rows)
    (found : first[index]? = some one) (foundSecond : second[index]? = some other) :
    ∃ order, one.compare? other = some order := by
  have same := regular.types first member second memberSecond index one other found foundSecond
  cases one <;> cases other <;> simp_all [Value.compare?, Value.datatype?]

namespace Value

theorem ofToken_ends (permits : Error.Permits failure) (token : Token) : Except.Ends (ofToken token) (fun _ => True) failure := by
  unfold ofToken
  split
  · split
    · split
      · exact .ok trivial
      · exact .error (permits _ id)
    · exact .error (permits _ id)
  · exact .ok trivial
  · exact .ok trivial
  · exact .error (permits _ id)

private theorem equal?_ends (permits : Error.Permits failure) {command : String} (unordered : command ∉ orderings) (first second : Value) :
    Except.Ends (first.equal? command second) (fun _ => True) failure := by
  unfold equal?
  split
  · split
    · exact .ok trivial
    · exact .error (permits _ unordered)
  · exact .ok trivial

private theorem among_ends (permits : Error.Permits failure) (cell : Value) (tokens : List Token) :
    Except.Ends (cell.among tokens) (fun _ => True) failure := by
  induction tokens with
  | nil => exact .ok trivial
  | cons token tokens ih =>
    refine .bind (ofToken_ends permits token) fun value _ => ?_
    refine .bind (equal?_ends permits (by decide) cell value) fun same _ => ?_
    exact .bind ih fun found _ => .ok trivial

private theorem sumFrom_ends (permits : Error.Permits failure) {command : String} (unordered : command ∉ orderings) (total : Int)
    (values : List Value) :
    Except.Ends (sumFrom command total values) (fun _ => True) failure := by
  induction values generalizing total with
  | nil => exact .ok trivial
  | cons value values ih =>
    cases value with
    | null => exact .error (permits _ unordered)
    | text content => exact .error (permits _ unordered)
    | int number =>
      unfold sumFrom
      split
      · exact ih _
      · exact .error (permits _ id)

end Value

private theorem AggregateFunction.total_ends (permits : Error.Permits failure) {function : AggregateFunction} {values : List Value}
    {result : Int → Value} (unordered : function.name ∉ orderings) :
    Except.Ends (if values.isEmpty then return .null else return result (← Value.sumFrom function.name 0 values))
      (fun _ => True) failure := by
  split
  · exact .ok trivial
  · exact .bind (Value.sumFrom_ends permits unordered _ _) fun total _ => .ok trivial

private theorem AggregateFunction.apply_ends (permits : Error.Permits failure) {function : AggregateFunction}
    {values : List Value} {datatype : Datatype} (all : ∀ value ∈ values, value.fits datatype) :
    Except.Ends (function.apply values) (fun _ => True) failure := by
  have extreme (wins : Ordering) : Except.Ends (Value.extreme function.name wins values) (fun _ => True) failure :=
    .of_returns ((Value.extreme_returns all).imp fun _ _ => trivial)
  cases function with
  | count => exact .ok trivial
  | min => exact extreme .lt
  | max => exact extreme .gt
  | sum => exact total_ends permits (by decide)
  | avg => exact total_ends permits (by decide)

/-- An average that is a number is the quotient of a sum by the number of its values, of which there are some. -/
theorem AggregateFunction.average_divides {values : List Value} {number : Int}
    (done : AggregateFunction.avg.apply values = .ok (.int number)) :
    0 < values.length ∧
      ∃ total, Value.sumFrom AggregateFunction.avg.name 0 values = .ok total ∧ number = total.tdiv values.length := by
  change (if values.isEmpty then _ else _) = _ at done
  split at done
  · cases done
  next some =>
    obtain ⟨total, summed, same⟩ := Except.bind_eq_ok.mp done
    cases same
    exact ⟨List.length_pos_iff.mpr (by simpa using some), total, summed, rfl⟩

namespace Condition
variable {columns : List String} {row : Row}

theorem check_ends (condition : Condition) (table : String) (reports : Error.Reports failure columns condition.columns) :
    Except.Ends (condition.check table columns) (fun _ => condition.columns ⊆ columns) failure := by
  unfold check
  generalize condition.columns = names at reports
  induction names with
  | nil => exact .ok (List.nil_subset _)
  | cons name names ih =>
    have looked : Except.Ends (discard (columnPosition table columns name)) (fun _ => name ∈ columns) failure :=
      .bind (columnPosition_ends table reports List.mem_cons_self) fun index found => .ok found.1
    refine .bind looked fun _ present => ?_
    exact (ih (reports.of_subset (List.subset_cons_self _ _))).imp fun _ known => List.cons_subset.mpr ⟨present, known⟩

private theorem cellOf_ends (table : String) {names : List String} (reports : Error.Reports failure columns names) {column : String}
    (named : column ∈ names) (long : row.length = columns.length) :
    Except.Ends (cellOf table columns row column) (fun _ => True) failure :=
  .bind (columnPosition_ends table reports named) fun _ found => row.cell_ends long found

theorem holds_ends (condition : Condition) (permits : Error.Permits failure) (table : String)
    (reports : Error.Reports failure columns condition.columns) (long : row.length = columns.length) :
    Except.Ends (condition.holds table columns row) (fun _ => True) failure := by
  induction condition with
  | constant truth => exact .ok trivial
  | and left right ihLeft ihRight =>
    refine .bind (ihLeft (reports.of_subset (List.subset_append_left _ _))) fun truth _ => ?_
    split
    · exact ihRight (reports.of_subset (List.subset_append_right _ _))
    · exact .ok trivial
  | or left right ihLeft ihRight =>
    refine .bind (ihLeft (reports.of_subset (List.subset_append_left _ _))) fun truth _ => ?_
    split
    · exact .ok trivial
    · exact ihRight (reports.of_subset (List.subset_append_right _ _))
  | compare column comparison token =>
    refine .bind (cellOf_ends table reports List.mem_cons_self long) fun cell _ => ?_
    refine .bind (Value.ofToken_ends permits token) fun value _ => ?_
    refine .bind (Value.equal?_ends permits (by decide) cell value) fun same _ => ?_
    cases same with
    | none => exact .ok trivial
    | some same => exact .ok trivial
  | member column membership tokens =>
    refine .bind (cellOf_ends table reports List.mem_cons_self long) fun cell _ => ?_
    split
    · exact .ok trivial
    · exact .bind (Value.among_ends permits cell tokens) fun inside _ => .ok trivial

end Condition

theorem typeOf?_isSome {columns : List ColumnDef} {name : String} (member : name ∈ columns.map ColumnDef.name) :
    (typeOf? columns name).isSome := by
  obtain ⟨column, inside, same⟩ := List.mem_map.mp member
  rw [typeOf?, Option.isSome_map, List.find?_isSome]
  exact ⟨column, inside, by simpa using same⟩

namespace Relation
variable {relation : Relation} {columns : List ColumnDef}

theorem HasType.regular (typed : relation.HasType columns) : relation.Regular := by
  obtain ⟨names, rows⟩ := typed
  constructor
  · intro row member
    rw [names, List.length_map]
    exact (rows row member).length_eq.symm
  · intro first member second memberSecond index one other found foundSecond present presentSecond
    obtain ⟨insideFirst, rfl⟩ := List.getElem?_eq_some_iff.mp found
    obtain ⟨insideSecond, rfl⟩ := List.getElem?_eq_some_iff.mp foundSecond
    have inside : index < columns.length := (rows first member).length_eq ▸ insideFirst
    have fits := (Table.fits_iff.mp ((rows first member).get inside insideFirst)).resolve_left present
    have fitsSecond := (Table.fits_iff.mp ((rows second memberSecond).get inside insideSecond)).resolve_left presentSecond
    exact fits.trans fitsSecond.symm

theorem HasType.of_subset {rows : List Row} (typed : relation.HasType columns) (known : rows ⊆ relation.rows) :
    HasType { relation with rows } columns :=
  ⟨typed.names, fun row member => typed.rows row (known member)⟩

theorem firstOccurrences_subset (seen rows : List Row) : firstOccurrences seen rows ⊆ rows := by
  induction rows generalizing seen with
  | nil => exact List.Subset.refl _
  | cons row rows ih =>
    unfold firstOccurrences
    split
    · exact List.subset_cons_of_subset row (ih seen)
    · exact List.cons_subset_cons row (ih _)

theorem HasType.filter_safe (typed : relation.HasType columns) (permits : Error.Permits failure) (table : String)
    (condition : Condition) (reports : Error.Reports failure (columns.map ColumnDef.name) condition.columns) :
    Except.Ends (relation.filter table condition)
      (fun kept => condition.columns ⊆ columns.map ColumnDef.name ∧ kept.HasType columns) failure :=
  typed.filter_ends (condition.check_ends table reports) fun _ fits =>
    condition.holds_ends permits table reports (fits.length_eq.symm.trans (List.length_map _).symm)

theorem HasType.sort_safe (typed : relation.HasType columns) (table : String) (keys : List SortKey)
    (reports : Error.Reports failure (columns.map ColumnDef.name) (keys.map SortKey.column)) :
    Except.Ends (relation.sort table keys)
      (fun sorted => keys.map SortKey.column ⊆ columns.map ColumnDef.name ∧ sorted.HasType columns) failure := by
  rw [← typed.names] at reports ⊢
  have each (key : SortKey) (member : key ∈ keys) :
      Except.Ends (sortPosition table relation.columns key) (fun _ => key.column ∈ relation.columns) failure :=
    .bind (columnPosition_ends table reports (List.mem_map_of_mem member)) fun index found => .ok found.1
  refine .guard (.mapM each) fun known => .imp (.of_returns (typed.sort_returns ?_ table)) fun sorted typed => ⟨?_, typed⟩
  · exact fun key member => typeOf?_isSome (typed.names ▸ known key member)
  · exact List.forall_mem_map.mpr known

theorem HasType.project_safe (typed : relation.HasType columns) (table : String) (names : List String)
    (reports : Error.Reports failure (columns.map ColumnDef.name) names) :
    Except.Ends (relation.project table names)
      (fun result => names ⊆ columns.map ColumnDef.name ∧ result.HasType (chosen columns names)) failure := by
  rw [← typed.names] at reports ⊢
  have each (name : String) (member : name ∈ names) :
      Except.Ends (columnPosition table relation.columns name) (fun _ => name ∈ relation.columns) failure :=
    (columnPosition_ends table reports member).imp fun index found => found.1
  refine .guard (.mapM each) fun known => .imp (.of_returns (typed.project_returns ?_ table)) fun result typed => ⟨known, typed⟩
  exact fun name member => typeOf?_isSome (typed.names ▸ known name member)

private theorem hasType_of_row {names : List String} {row : Row} (long : names.length = row.length) :
    HasType ⟨names, [row]⟩ (names.zipWith (fun name value => ⟨name, value.datatype?.getD .text⟩) row) := by
  induction names generalizing row with
  | nil =>
    obtain rfl := List.length_eq_zero_iff.mp long.symm
    exact ⟨rfl, by simp [Row.Fits]⟩
  | cons name names ih =>
    obtain ⟨value, values, rfl⟩ := List.exists_cons_of_length_eq_add_one long.symm
    obtain ⟨same, rows⟩ := ih (Nat.succ.inj long)
    refine ⟨congrArg (name :: ·) same, List.forall_mem_singleton.mpr (.cons ?_ (List.forall_mem_singleton.mp rows))⟩
    cases value <;> rfl

private theorem HasType.aggregateTerm_safe (typed : relation.HasType columns) (permits : Error.Permits failure) (table : String)
    (term : AggregateTerm) {names : List String} (reports : Error.Reports failure (columns.map ColumnDef.name) names)
    (named : term.column ∈ names) :
    Except.Ends (relation.aggregateTerm table term) (fun _ => term.column ∈ columns.map ColumnDef.name) failure := by
  obtain ⟨own, rows⟩ := typed
  unfold Relation.aggregateTerm
  rw [own]
  refine .bind (columnPosition_ends table reports named) fun index found => ?_
  obtain ⟨member, rfl⟩ := found
  obtain ⟨datatype, known⟩ := Option.isSome_iff_exists.mp (typeOf?_isSome member)
  refine .bind (.of_returns (.mapM fun row inside => (rows row inside).cell known)) fun cells fits => ?_
  have present : ∀ value ∈ cells.filter fun cell => cell ≠ .null, value.fits datatype :=
    fun value inside => fits value (List.mem_of_mem_filter inside)
  exact (AggregateFunction.apply_ends permits present).imp fun _ _ => member

theorem HasType.aggregate_safe (typed : relation.HasType columns) (permits : Error.Permits failure) (table : String)
    (terms : List AggregateTerm)
    (reports : Error.Reports failure (columns.map ColumnDef.name) (terms.map AggregateTerm.column)) :
    Except.Ends (relation.aggregate table terms)
      (fun result => terms.map AggregateTerm.column ⊆ columns.map ColumnDef.name ∧ ∃ columns, result.HasType columns)
      failure := by
  have computed := Except.Ends.mapM fun term (member : term ∈ terms) =>
    typed.aggregateTerm_safe permits table term reports (List.mem_map_of_mem member)
  unfold Relation.aggregate
  cases found : terms.mapM (relation.aggregateTerm table) with
  | error error =>
    rw [found] at computed
    exact computed
  | ok cells =>
    have long := (Except.forall₂_of_mapM found).length_eq
    exact .ok ⟨List.forall_mem_map.mpr (computed.result found), _, hasType_of_row ((List.length_map _).trans long)⟩

theorem HasType.join_safe {left right : Relation} {leftColumns rightColumns : List ColumnDef}
    (typed : left.HasType leftColumns) (typedRight : right.HasType rightColumns) (permits : Error.Permits failure)
    (kind : JoinKind) (leftTable rightTable : String) (on : JoinCondition)
    (reports : Error.Reports failure ((joinedColumns leftTable leftColumns rightTable rightColumns).map ColumnDef.name)
      [on.first, on.second]) :
    Except.Ends (Relation.join kind leftTable left rightTable right on) (fun joined =>
      [on.first, on.second] ⊆ (joinedColumns leftTable leftColumns rightTable rightColumns).map ColumnDef.name ∧
      joined.HasType (joinedColumns leftTable leftColumns rightTable rightColumns)) failure := by
  have placed := typed.join_ends typedRight (columnPosition_ends _ reports List.mem_cons_self)
    (columnPosition_ends _ reports (List.mem_cons_of_mem _ List.mem_cons_self)) ?_ kind
  · refine placed.imp fun joined found => ?_
    obtain ⟨⟨one, first⟩, ⟨other, second⟩, typed⟩ := found
    exact ⟨List.cons_subset.mpr ⟨first.1, List.cons_subset.mpr ⟨second.1, List.nil_subset _⟩⟩, typed⟩
  intro first found second foundSecond row fits
  have long := fits.length_eq.symm.trans (List.length_map ColumnDef.name).symm
  refine .bind (row.cell_ends long found) fun one _ => ?_
  refine .bind (row.cell_ends long foundSecond) fun other _ => ?_
  exact .bind (Value.equal?_ends permits (by decide) one other) fun same _ => .ok trivial

end Relation

end MiniSql

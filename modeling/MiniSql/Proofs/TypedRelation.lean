import MiniSql.Proofs.QueryMeaning

/-! Typed relations. On rows whose cells fit typed columns, no operation that respects the types fails, and the rows
it gives fit their columns again. The one exception is a sum that leaves the integers. -/

namespace MiniSql

/-- The type of the first column of this name. -/
def typeOf? (columns : List ColumnDef) (name : String) : Option Datatype :=
  (columns.find? fun column => column.name = name).map ColumnDef.datatype

/-- The token stands for NULL or for a value of this type. -/
def Token.HasType (token : Token) (datatype : Datatype) : Prop :=
  Except.Returns (Value.ofToken token) fun value => value.fits datatype

/-- One value for each column, NULL or of the type of the column. -/
def Row.Fits (columns : List ColumnDef) (row : Row) : Prop :=
  List.Forall₂ (fun column value => value.fits column.datatype = true) columns row

structure Relation.HasType (relation : Relation) (columns : List ColumnDef) : Prop where
  names : relation.columns = columns.map ColumnDef.name
  rows : ∀ row ∈ relation.rows, row.Fits columns

/-- Every column exists and every value may be compared with it. -/
def Condition.WellTyped (columns : List ColumnDef) : Condition → Prop
  | and left right => left.WellTyped columns ∧ right.WellTyped columns
  | or left right => left.WellTyped columns ∧ right.WellTyped columns
  | constant _ => True
  | compare column _ token => ∃ datatype, typeOf? columns column = some datatype ∧ token.HasType datatype
  | member column _ tokens =>
    ∃ datatype, typeOf? columns column = some datatype ∧ ∀ token ∈ tokens, token.HasType datatype

/-- The functions that add up. -/
def AggregateFunction.Sums (function : AggregateFunction) : Prop := function = .sum ∨ function = .avg

def AggregateTerm.WellTyped (columns : List ColumnDef) (term : AggregateTerm) : Prop :=
  ∃ datatype, typeOf? columns term.column = some datatype ∧ (term.function.Sums → datatype = .int)

theorem typeOf?_place {columns : List ColumnDef} {name : String} {datatype : Datatype}
    (found : typeOf? columns name = some datatype) :
    ∃ column, columns[(columns.map ColumnDef.name).idxOf name]? = some column ∧ column.datatype = datatype := by
  induction columns with
  | nil => cases found
  | cons column columns ih =>
    rw [List.map_cons, List.idxOf_cons]
    by_cases same : column.name = name
    · refine ⟨column, by simp [same], ?_⟩
      simpa [typeOf?, List.find?_cons, same] using found
    · have later : typeOf? columns name = some datatype := by simpa [typeOf?, List.find?_cons, same] using found
      simpa [beq_eq_false_iff_ne.mpr same] using ih later

theorem mem_of_typeOf? {columns : List ColumnDef} {name : String} {datatype : Datatype}
    (found : typeOf? columns name = some datatype) : name ∈ columns.map ColumnDef.name := by
  obtain ⟨column, present, _⟩ := Option.map_eq_some_iff.mp found
  exact List.mem_map.mpr ⟨column, List.mem_of_find?_eq_some present, by simpa using List.find?_some present⟩

theorem position_of_typeOf? {columns : List ColumnDef} {name : String} {datatype : Datatype} (table : String)
    (found : typeOf? columns name = some datatype) :
    columnPosition table (columns.map ColumnDef.name) name = .ok ((columns.map ColumnDef.name).idxOf name) :=
  columnPosition_of_mem table (mem_of_typeOf? found)

namespace Value
variable {datatype : Datatype}

theorem compare?_of_fits {first second : Value} (fits : first.fits datatype) (fitsSecond : second.fits datatype) :
    ∃ order, first.compare? second = some order := by
  cases first <;> cases second <;> cases datatype <;> simp_all [Value.fits, datatype?, compare?]

private theorem equal?_returns {first second : Value} (command : String) (fits : first.fits datatype)
    (fitsSecond : second.fits datatype) : Except.Returns (first.equal? command second) fun _ => True := by
  cases first <;> cases second <;> cases datatype <;> simp_all [Value.fits, datatype?, equal?, Except.Returns]

private theorem among_returns {cell : Value} {tokens : List Token} (fits : cell.fits datatype)
    (typed : ∀ token ∈ tokens, token.HasType datatype) : Except.Returns (cell.among tokens) fun _ => True := by
  induction tokens with
  | nil => exact .ok trivial
  | cons token tokens ih =>
    obtain ⟨first, others⟩ := List.forall_mem_cons.mp typed
    refine .bind first fun value fitsValue => ?_
    refine .bind (equal?_returns _ fits fitsValue) fun same _ => ?_
    exact .bind (ih others) fun found _ => .ok trivial

end Value

namespace Row.Fits
variable {columns : List ColumnDef} {row : Row} {name : String} {datatype : Datatype}

theorem cell (fits : row.Fits columns) (found : typeOf? columns name = some datatype) :
    Except.Returns (row.cell ((columns.map ColumnDef.name).idxOf name)) fun value => value.fits datatype := by
  obtain ⟨column, place, rfl⟩ := typeOf?_place found
  obtain ⟨inside, rfl⟩ := List.getElem?_eq_some_iff.mp place
  have insideRow := fits.length_eq ▸ inside
  exact ⟨_, Row.cell_eq_ok.mpr (List.getElem?_eq_getElem insideRow), fits.get inside insideRow⟩

private theorem append {left right : Row} {leftColumns rightColumns : List ColumnDef} (fitsLeft : left.Fits leftColumns)
    (fitsRight : right.Fits rightColumns) : Row.Fits (leftColumns ++ rightColumns) (left ++ right) :=
  List.rel_append fitsLeft fitsRight

private theorem nulls (columns : List ColumnDef) : Row.Fits columns (Relation.nulls columns.length) := by
  induction columns with
  | nil => exact .nil
  | cons column columns ih => exact .cons rfl ih

theorem of_types {others : List ColumnDef} (fits : row.Fits columns)
    (same : columns.map ColumnDef.datatype = others.map ColumnDef.datatype) : row.Fits others := by
  have types : List.Forall₂ (fun datatype value => value.fits datatype = true) (columns.map ColumnDef.datatype) row :=
    List.forall₂_map_left_iff.mpr fits
  rw [same] at types
  exact List.forall₂_map_left_iff.mp types

end Row.Fits

namespace Condition
variable {columns : List ColumnDef} {condition : Condition}

private theorem mem_of_wellTyped (wellTyped : condition.WellTyped columns) :
    ∀ name ∈ condition.columns, name ∈ columns.map ColumnDef.name := by
  induction condition with
  | constant truth => simp [Condition.columns]
  | compare column comparison token =>
    obtain ⟨datatype, found, _⟩ := wellTyped
    simpa [Condition.columns] using mem_of_typeOf? found
  | member column membership tokens =>
    obtain ⟨datatype, found, _⟩ := wellTyped
    simpa [Condition.columns] using mem_of_typeOf? found
  | and left right ihLeft ihRight | or left right ihLeft ihRight =>
    intro name member
    exact (List.mem_append.mp member).elim (ihLeft wellTyped.1 name) (ihRight wellTyped.2 name)

theorem check_returns (table : String) (wellTyped : condition.WellTyped columns) :
    Except.Returns (condition.check table (columns.map ColumnDef.name)) fun _ => True := by
  have known := mem_of_wellTyped wellTyped
  unfold check
  generalize condition.columns = names at known
  induction names with
  | nil => exact .ok trivial
  | cons name names ih =>
    obtain ⟨first, others⟩ := List.forall_mem_cons.mp known
    have checked : discard (columnPosition table (columns.map ColumnDef.name) name) = .ok () := by
      rw [columnPosition_of_mem table first]
      rfl
    exact .step checked (ih others)

private theorem cellOf_returns {row : Row} {column : String} {datatype : Datatype} (table : String) (fits : row.Fits columns)
    (found : typeOf? columns column = some datatype) :
    Except.Returns (cellOf table (columns.map ColumnDef.name) row column) fun value => value.fits datatype :=
  .step (position_of_typeOf? table found) (fits.cell found)

theorem holds_returns {row : Row} (table : String) (wellTyped : condition.WellTyped columns) (fits : row.Fits columns) :
    Except.Returns (condition.holds table (columns.map ColumnDef.name) row) fun _ => True := by
  induction condition with
  | constant truth => exact .ok trivial
  | and left right ihLeft ihRight =>
    refine .bind (ihLeft wellTyped.1) fun truth _ => ?_
    split
    · exact ihRight wellTyped.2
    · exact .ok trivial
  | or left right ihLeft ihRight =>
    refine .bind (ihLeft wellTyped.1) fun truth _ => ?_
    split
    · exact .ok trivial
    · exact ihRight wellTyped.2
  | compare column comparison token =>
    obtain ⟨datatype, found, typed⟩ := wellTyped
    refine .bind (cellOf_returns table fits found) fun cell fitsCell => ?_
    refine .bind typed fun value fitsValue => ?_
    refine .bind (Value.equal?_returns _ fitsCell fitsValue) fun same _ => ?_
    cases same with
    | none => exact .ok trivial
    | some same => exact .ok trivial
  | member column membership tokens =>
    obtain ⟨datatype, found, typed⟩ := wellTyped
    refine .bind (cellOf_returns table fits found) fun cell fitsCell => ?_
    split
    · exact .ok trivial
    · exact .bind (Value.among_returns fitsCell typed) fun inside _ => .ok trivial

end Condition

namespace Relation
variable {relation : Relation} {columns : List ColumnDef}

theorem keep_ends {failure : Error → Prop} {test : Row → Except Error Bool} {rows : List Row}
    (tested : ∀ row ∈ rows, Except.Ends (test row) (fun _ => True) failure) :
    Except.Ends (keep test rows) (fun kept => ∀ row ∈ kept, row ∈ rows) failure := by
  induction rows with
  | nil => exact .ok (by simp)
  | cons row rows ih =>
    obtain ⟨first, others⟩ := List.forall_mem_cons.mp tested
    refine .bind first fun truth _ => ?_
    split
    · exact .bind (ih others) fun kept known => .ok (List.cons_subset_cons row known)
    · exact (ih others).imp fun kept known => List.subset_cons_of_subset row known

theorem HasType.filter_ends {failure : Error → Prop} {condition : Condition} {table : String} {known : Prop}
    (typed : relation.HasType columns)
    (checked : Except.Ends (condition.check table (columns.map ColumnDef.name)) (fun _ => known) failure)
    (tested : ∀ row : Row, row.Fits columns →
      Except.Ends (condition.holds table (columns.map ColumnDef.name) row) (fun _ => True) failure) :
    Except.Ends (relation.filter table condition) (fun kept => known ∧ kept.HasType columns) failure := by
  obtain ⟨names, rows⟩ := typed
  unfold Relation.filter
  rw [names]
  refine .bind checked fun _ known => ?_
  refine .bind (keep_ends fun row member => tested row (rows row member)) fun kept inside => ?_
  exact .ok ⟨known, rfl, fun row member => rows row (inside row member)⟩

theorem HasType.filter_returns {condition : Condition} (typed : relation.HasType columns)
    (wellTyped : condition.WellTyped columns) (table : String) :
    Except.Returns (relation.filter table condition) fun kept => kept.HasType columns :=
  (typed.filter_ends (.of_returns (condition.check_returns table wellTyped)) fun _ fits =>
    .of_returns (condition.holds_returns table wellTyped fits)).returns.imp fun _ kept => kept.2

theorem HasType.sort_returns {keys : List SortKey} (typed : relation.HasType columns)
    (known : ∀ key ∈ keys, (typeOf? columns key.column).isSome) (table : String) :
    Except.Returns (relation.sort table keys) fun sorted => sorted.HasType columns := by
  obtain ⟨names, rows⟩ := typed
  refine (Relation.sort_returns table (fun key member => ?_) fun first member second present key inside => ?_).imp
    fun sorted kept => ?_
  · obtain ⟨datatype, found⟩ := Option.isSome_iff_exists.mp (known key member)
    exact names ▸ mem_of_typeOf? found
  · obtain ⟨datatype, found⟩ := Option.isSome_iff_exists.mp (known key inside)
    obtain ⟨one, read, fits⟩ := (rows first member).cell found
    obtain ⟨other, readOther, fitsOther⟩ := (rows second present).cell found
    obtain ⟨order, compared⟩ := Value.compare?_of_fits fits fitsOther
    exact ⟨one, other, order, names ▸ read, names ▸ readOther, compared⟩
  · exact ⟨kept.1.trans names, fun row member => rows row (kept.2 row member)⟩

/-- The columns of these names. -/
def chosen (columns : List ColumnDef) (names : List String) : List ColumnDef :=
  names.map fun name => ⟨name, (typeOf? columns name).getD .text⟩

private theorem cells_returns {row : Row} {names : List String} (fits : row.Fits columns)
    (known : ∀ name ∈ names, (typeOf? columns name).isSome) :
    Except.Returns ((names.map fun name => (columns.map ColumnDef.name).idxOf name).mapM row.cell)
      (Row.Fits (chosen columns names)) := by
  induction names with
  | nil => exact .ok .nil
  | cons name names ih =>
    obtain ⟨first, others⟩ := List.forall_mem_cons.mp known
    obtain ⟨datatype, found⟩ := Option.isSome_iff_exists.mp first
    rw [List.map_cons, List.mapM_cons]
    refine .bind (fits.cell found) fun value fitsValue => ?_
    refine .bind (ih others) fun values fitsValues => .ok (.cons ?_ fitsValues)
    simpa [found] using fitsValue

theorem HasType.project_returns {names : List String} (typed : relation.HasType columns)
    (known : ∀ name ∈ names, (typeOf? columns name).isSome) (table : String) :
    Except.Returns (relation.project table names) fun result => result.HasType (chosen columns names) := by
  obtain ⟨own, rows⟩ := typed
  have resolved : names.mapM (columnPosition table relation.columns) =
      .ok (names.map fun name => (columns.map ColumnDef.name).idxOf name) := by
    refine Except.mapM_of_forall fun name member => ?_
    obtain ⟨datatype, found⟩ := Option.isSome_iff_exists.mp (known name member)
    rw [own, position_of_typeOf? table found]
  refine .step resolved ?_
  refine .bind (.mapM fun row member => cells_returns (rows row member) known) fun results fits => .ok ⟨?_, fits⟩
  simp [chosen, Function.comp_def]

end Relation

def AggregateFunction.overflow (function : AggregateFunction) : Error :=
  .unsupportedValue (function.name ++ " overflows INT")

namespace Value

private theorem extremeFrom_returns {command : String} {wins : Ordering} {present : Value} {values : List Value} {datatype : Datatype}
    (fits : present.fits datatype) (all : ∀ value ∈ values, value.fits datatype) :
    Except.Returns (extremeFrom command wins present values) fun result => result.fits datatype := by
  induction values generalizing present with
  | nil => exact .ok fits
  | cons candidate values ih =>
    obtain ⟨fitsCandidate, others⟩ := List.forall_mem_cons.mp all
    obtain ⟨order, compared⟩ := compare?_of_fits fitsCandidate fits
    unfold extremeFrom
    rw [compared]
    refine ih ?_ others
    split
    · exact fitsCandidate
    · exact fits

theorem extreme_returns {command : String} {wins : Ordering} {values : List Value} {datatype : Datatype}
    (all : ∀ value ∈ values, value.fits datatype) :
    Except.Returns (extreme command wins values) fun result => result.fits datatype := by
  cases values with
  | nil => exact .ok rfl
  | cons value values =>
    obtain ⟨first, others⟩ := List.forall_mem_cons.mp all
    exact extremeFrom_returns first others

private theorem sumFrom_fails {command : String} {total : Int} {values : List Value} {error : Error}
    (all : ∀ value ∈ values, value.fits .int ∧ value ≠ .null) (failed : sumFrom command total values = .error error) :
    error = .unsupportedValue (command ++ " overflows INT") := by
  induction values generalizing total with
  | nil => cases failed
  | cons value values ih =>
    obtain ⟨⟨fits, present⟩, others⟩ := List.forall_mem_cons.mp all
    cases value with
    | null => exact absurd rfl present
    | text content => cases fits
    | int number =>
      unfold sumFrom at failed
      split at failed
      · exact ih others failed
      · cases failed
        rfl

end Value

namespace AggregateFunction
variable {function : AggregateFunction} {values : List Value} {error : Error}

private theorem total_fails {result : Int → Value} (all : ∀ value ∈ values, value.fits .int ∧ value ≠ .null)
    (failed : (if values.isEmpty then return .null else return result (← Value.sumFrom function.name 0 values)) =
      Except.error error) :
    error = function.overflow := by
  split at failed
  · cases failed
  · rcases Except.bind_eq_error.mp failed with failed | ⟨_, _, impossible⟩
    · exact Value.sumFrom_fails all failed
    · cases impossible

/-- Over values of one type only a sum can fail, and only where it overflows. -/
theorem apply_fails {datatype : Datatype} (all : ∀ value ∈ values, value.fits datatype ∧ value ≠ .null)
    (summable : function.Sums → datatype = .int) (failed : function.apply values = .error error) :
    function.Sums ∧ error = function.overflow := by
  have extreme (wins : Ordering) :
      Except.Returns (Value.extreme function.name wins values) fun result => result.fits datatype :=
    Value.extreme_returns fun value member => (all value member).1
  cases function with
  | count => cases failed
  | min =>
    obtain ⟨result, done, _⟩ := extreme .lt
    cases done.symm.trans failed
  | max =>
    obtain ⟨result, done, _⟩ := extreme .gt
    cases done.symm.trans failed
  | sum =>
    obtain rfl := summable (.inl rfl)
    exact ⟨.inl rfl, total_fails all failed⟩
  | avg =>
    obtain rfl := summable (.inr rfl)
    exact ⟨.inr rfl, total_fails all failed⟩

end AggregateFunction

namespace Relation
variable {relation : Relation} {columns : List ColumnDef} {error : Error}

private theorem HasType.aggregateTerm_fails {term : AggregateTerm} {table : String} (typed : relation.HasType columns)
    (wellTyped : term.WellTyped columns) (failed : relation.aggregateTerm table term = .error error) :
    term.function.Sums ∧ error = term.function.overflow := by
  obtain ⟨names, rows⟩ := typed
  obtain ⟨datatype, found, summable⟩ := wellTyped
  obtain ⟨cells, read, fits⟩ := Except.Returns.mapM fun row member => (rows row member).cell found
  rw [Relation.aggregateTerm, names] at failed
  have failed := Except.rest_fails (position_of_typeOf? table found) failed
  have failed := Except.rest_fails read failed
  refine AggregateFunction.apply_fails (fun value member => ?_) summable failed
  obtain ⟨inside, present⟩ := List.mem_filter.mp member
  exact ⟨fits value inside, by simpa using present⟩

theorem HasType.aggregate_fails {terms : List AggregateTerm} {table : String} (typed : relation.HasType columns)
    (wellTyped : ∀ term ∈ terms, term.WellTyped columns) (failed : relation.aggregate table terms = .error error) :
    ∃ term ∈ terms, term.function.Sums ∧ error = term.function.overflow := by
  rcases Except.bind_eq_error.mp failed with failed | ⟨_, _, impossible⟩
  · obtain ⟨term, member, failed⟩ := Except.error_of_mapM failed
    exact ⟨term, member, typed.aggregateTerm_fails (wellTyped term member) failed⟩
  · cases impossible

end Relation

/-- The columns under the names they have in a join. -/
def qualified (table : String) (columns : List ColumnDef) : List ColumnDef :=
  columns.map fun column => ⟨table ++ "." ++ column.name, column.datatype⟩

/-- The columns of the rows of a join. -/
def joinedColumns (leftTable : String) (left : List ColumnDef) (rightTable : String) (right : List ColumnDef) :
    List ColumnDef :=
  qualified leftTable left ++ qualified rightTable right

theorem names_qualified (table : String) (columns : List ColumnDef) :
    (qualified table columns).map ColumnDef.name = Relation.qualify table (columns.map ColumnDef.name) := by
  simp [qualified, Relation.qualify, Function.comp_def]

namespace Relation
variable {columns : List ColumnDef} {positions : JoinPositions} {lefts rights : List Row} {failure : Error → Prop}

/-- In every row that fits, the operands of ON can be read, and comparing them fails in no other way than this. -/
def JoinPositions.Compares (positions : JoinPositions) (columns : List ColumnDef) (failure : Error → Prop) : Prop :=
  ∀ row : Row, row.Fits columns → Except.Ends (positions.matched row) (fun _ => True) failure

private theorem compares_of_typeOf? {first second : String} {datatype : Datatype} (found : typeOf? columns first = some datatype)
    (foundSecond : typeOf? columns second = some datatype) :
    JoinPositions.Compares ⟨(columns.map ColumnDef.name).idxOf first, (columns.map ColumnDef.name).idxOf second⟩ columns
      failure := by
  intro row fits
  refine .of_returns (.bind (fits.cell found) fun one fitsOne => ?_)
  refine .bind (fits.cell foundSecond) fun other fitsOther => ?_
  exact .bind (Value.equal?_returns _ fitsOne fitsOther) fun same _ => .ok trivial

private theorem partners_ends {left : Row} (compares : positions.Compares columns failure)
    (joined : ∀ right ∈ rights, Row.Fits columns (left ++ right)) (index : Nat) :
    Except.Ends (positions.partners left index rights) (fun found => ∀ entry ∈ found, entry.2.Fits columns) failure := by
  induction rights generalizing index with
  | nil => exact .ok (by simp)
  | cons right rights ih =>
    obtain ⟨fits, others⟩ := List.forall_mem_cons.mp joined
    refine .bind (compares _ fits) fun truth _ => ?_
    split
    · exact .bind (ih others _) fun found fitsRest => .ok (List.forall_mem_cons.mpr ⟨fits, fitsRest⟩)
    · exact ih others _

private theorem partnersOfRight_ends {right : Row} (compares : positions.Compares columns failure)
    (joined : ∀ left ∈ lefts, Row.Fits columns (left ++ right)) :
    Except.Ends (positions.partnersOfRight right lefts) (fun found => ∀ row ∈ found, row.Fits columns) failure := by
  have fits : ∀ row ∈ lefts.map fun left => left ++ right, Row.Fits columns row := List.forall_mem_map.mpr joined
  have tested := keep_ends fun row member => compares row (fits row member)
  exact tested.imp fun found known row member => fits row (known row member)

private theorem joinLefts_ends {pad : Row → List Row} (compares : positions.Compares columns failure)
    (joined : ∀ left ∈ lefts, ∀ right ∈ rights, Row.Fits columns (left ++ right))
    (padded : ∀ left ∈ lefts, ∀ row ∈ pad left, row.Fits columns) :
    Except.Ends (joinLefts positions pad rights lefts) (fun result => ∀ row ∈ result.1, row.Fits columns) failure := by
  induction lefts with
  | nil => exact .ok (by simp)
  | cons left lefts ih =>
    obtain ⟨first, others⟩ := List.forall_mem_cons.mp joined
    obtain ⟨pads, otherPads⟩ := List.forall_mem_cons.mp padded
    refine .bind (partners_ends compares first 0) fun own fits => ?_
    refine .bind (ih others otherPads) fun result fitsRest => .ok (List.forall_mem_append.mpr ⟨?_, fitsRest⟩)
    split
    · exact pads
    · exact List.forall_mem_map.mpr fits

private theorem joinRights_ends {width : Nat} (compares : positions.Compares columns failure)
    (joined : ∀ right ∈ rights, ∀ left ∈ lefts, Row.Fits columns (left ++ right))
    (padded : ∀ right ∈ rights, Row.Fits columns (nulls width ++ right)) :
    Except.Ends (joinRights positions width lefts rights) (fun rows => ∀ row ∈ rows, row.Fits columns) failure := by
  induction rights with
  | nil => exact .ok (by simp)
  | cons right rights ih =>
    obtain ⟨first, others⟩ := List.forall_mem_cons.mp joined
    obtain ⟨pads, otherPads⟩ := List.forall_mem_cons.mp padded
    refine .bind (partnersOfRight_ends compares first) fun own fits => ?_
    refine .bind (ih others otherPads) fun rows fitsRest => .ok (List.forall_mem_append.mpr ⟨?_, fitsRest⟩)
    split
    · exact List.forall_mem_singleton.mpr pads
    · exact fits

private theorem joinRows_ends {left right : Relation} {leftColumns rightColumns : List ColumnDef}
    (typed : left.HasType leftColumns) (typedRight : right.HasType rightColumns)
    (compares : positions.Compares (leftColumns ++ rightColumns) failure) (kind : JoinKind) :
    Except.Ends (joinRows kind positions left right) (fun rows => ∀ row ∈ rows, row.Fits (leftColumns ++ rightColumns))
      failure := by
  obtain ⟨names, fits⟩ := typed
  obtain ⟨namesRight, fitsRight⟩ := typedRight
  have joined : ∀ one ∈ left.rows, ∀ other ∈ right.rows, Row.Fits (leftColumns ++ rightColumns) (one ++ other) :=
    fun one member other present => (fits one member).append (fitsRight other present)
  have paddedRight : ∀ one ∈ left.rows, ∀ row ∈ [one ++ nulls right.columns.length],
      row.Fits (leftColumns ++ rightColumns) := by
    intro one member
    rw [namesRight, List.length_map]
    exact List.forall_mem_singleton.mpr ((fits one member).append (.nulls rightColumns))
  have paddedLeft : ∀ other ∈ right.rows, Row.Fits (leftColumns ++ rightColumns) (nulls left.columns.length ++ other) := by
    intro other present
    rw [names, List.length_map]
    exact Row.Fits.append (.nulls leftColumns) (fitsRight other present)
  cases kind with
  | inner => exact .bind (joinLefts_ends compares joined (by simp)) fun result fit => .ok fit
  | left => exact .bind (joinLefts_ends compares joined paddedRight) fun result fit => .ok fit
  | right => exact joinRights_ends compares (fun other present one member => joined one member other present) paddedLeft
  | full =>
    refine .bind (joinLefts_ends compares joined paddedRight) fun result fit => .ok ?_
    refine List.forall_mem_append.mpr ⟨fit, fun row member => ?_⟩
    obtain ⟨entry, inside, rfl⟩ := List.mem_map.mp member
    exact paddedLeft entry.1 (List.fst_mem_of_mem_zipIdx (List.mem_of_mem_filter inside))

section Join
variable {left right : Relation} {leftColumns rightColumns : List ColumnDef} {leftTable rightTable : String} {on : JoinCondition}

theorem HasType.join_ends {first second : Nat → Prop} (typed : left.HasType leftColumns) (typedRight : right.HasType rightColumns)
    (placed : Except.Ends (operandPosition leftTable rightTable
      ((joinedColumns leftTable leftColumns rightTable rightColumns).map ColumnDef.name) on.first) first failure)
    (placedSecond : Except.Ends (operandPosition leftTable rightTable
      ((joinedColumns leftTable leftColumns rightTable rightColumns).map ColumnDef.name) on.second) second failure)
    (compares : ∀ one, first one → ∀ other, second other →
      JoinPositions.Compares ⟨one, other⟩ (joinedColumns leftTable leftColumns rightTable rightColumns) failure)
    (kind : JoinKind) :
    Except.Ends (Relation.join kind leftTable left rightTable right on) (fun joined =>
      (∃ one, first one) ∧ (∃ other, second other) ∧
        joined.HasType (joinedColumns leftTable leftColumns rightTable rightColumns)) failure := by
  have names : qualify leftTable left.columns ++ qualify rightTable right.columns =
      (joinedColumns leftTable leftColumns rightTable rightColumns).map ColumnDef.name := by
    rw [joinedColumns, List.map_append, names_qualified, names_qualified, typed.names, typedRight.names]
  have types : (leftColumns ++ rightColumns).map ColumnDef.datatype =
      (joinedColumns leftTable leftColumns rightTable rightColumns).map ColumnDef.datatype := by
    simp [joinedColumns, qualified, Function.comp_def]
  unfold Relation.join
  rw [names]
  refine .bind placed fun one holds => .bind placedSecond fun other holdsOther => ?_
  have unqualified : JoinPositions.Compares ⟨one, other⟩ (leftColumns ++ rightColumns) failure := fun row fits =>
    compares one holds other holdsOther row (fits.of_types types)
  refine .bind (joinRows_ends typed typedRight unqualified kind) fun rows fits => .ok ?_
  exact ⟨⟨one, holds⟩, ⟨other, holdsOther⟩, rfl, fun row member => (fits row member).of_types types⟩

theorem HasType.join_returns {datatype : Datatype} (typed : left.HasType leftColumns)
    (typedRight : right.HasType rightColumns)
    (first : typeOf? (joinedColumns leftTable leftColumns rightTable rightColumns) on.first = some datatype)
    (second : typeOf? (joinedColumns leftTable leftColumns rightTable rightColumns) on.second = some datatype)
    (kind : JoinKind) :
    Except.Returns (Relation.join kind leftTable left rightTable right on) fun joined =>
      joined.HasType (joinedColumns leftTable leftColumns rightTable rightColumns) := by
  refine (typed.join_ends typedRight (.of_returns ⟨_, position_of_typeOf? _ first, rfl⟩)
    (.of_returns ⟨_, position_of_typeOf? _ second, rfl⟩) ?_ kind).returns.imp fun joined found => found.2.2
  rintro _ rfl _ rfl
  exact compares_of_typeOf? first second

end Join

end Relation

end MiniSql

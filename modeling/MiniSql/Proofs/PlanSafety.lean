import MiniSql.Proofs.RelationSafety
import MiniSql.Proofs.TypeSoundness

/-! Running a plan is safe at every level, whatever the shape of the plan: from a valid catalog each operation reads
and writes only cells that exist, gives regular rows if it gives rows, and leaves a valid catalog also when it fails. -/

namespace MiniSql

variable {failure : Error → Prop}

private theorem ColumnDef.valueOf_ends (permits : Error.Permits failure) {command : Keyword} (unordered : command.text ∉ orderings)
    (column : ColumnDef) (token : Token) : Except.Ends (column.valueOf command token) (fun _ => True) failure := by
  refine .bind (Value.ofToken_ends permits token) fun value _ => ?_
  split
  · exact .ok trivial
  · exact .error (permits _ unordered)

/-- The columns that a WHERE names, if there is one. -/
def filterColumns (filter : Option Condition) : List String := (filter.map Condition.columns).getD []

namespace RowTable
variable {table : RowTable}

theorem insert_ends (table : RowTable) (permits : Error.Permits failure) (tokens : List Token) :
    Except.Ends (table.insert tokens) (fun _ => True) failure := by
  unfold insert typedRow
  split
  · exact .error (permits _ id)
  · have each (entry : ColumnDef × Token) : Except.Ends (entry.1.valueOf .INSERT entry.2) (fun _ => True) failure :=
      entry.1.valueOf_ends permits (by decide) entry.2
    exact .bind (.mapM fun entry _ => each entry) fun row _ => .ok trivial

private theorem marks_ends (typed : table.toRelation.HasType table.columns) (permits : Error.Permits failure)
    (filter : Option Condition) (reports : Error.Reports failure table.columnNames (filterColumns filter)) :
    Except.Ends (table.marks filter) (fun _ => filterColumns filter ⊆ table.columnNames) failure := by
  cases filter with
  | none => exact .ok (List.nil_subset _)
  | some condition =>
    refine .bind (condition.check_ends table.name reports) fun _ known => ?_
    have each (row : Row) (member : row ∈ table.rows) :=
      condition.holds_ends permits table.name reports (typed.regular.lengths row member)
    exact (Except.Ends.mapM each).imp fun _ _ => known

private theorem cellChange_ends (table : RowTable) (permits : Error.Permits failure) {names : List String}
    (reports : Error.Reports failure table.columnNames names) (assignment : Assignment) (named : assignment.column ∈ names) :
    Except.Ends (table.cellChange assignment) (fun _ => assignment.column ∈ table.columnNames) failure := by
  refine .bind (columnPosition_ends table.name reports named) fun index found => ?_
  obtain ⟨member, rfl⟩ := found
  obtain ⟨datatype, known⟩ := Option.isSome_iff_exists.mp (typeOf?_isSome member)
  obtain ⟨column, place, _⟩ := typeOf?_place known
  rw [columnNames, place]
  exact .bind (column.valueOf_ends permits (by decide) assignment.value) fun value _ => .ok member

theorem update_ends (typed : table.toRelation.HasType table.columns) (permits : Error.Permits failure)
    (assignments : List Assignment) (filter : Option Condition)
    (reports : Error.Reports failure table.columnNames (assignments.map Assignment.column ++ filterColumns filter)) :
    Except.Ends (table.update assignments filter)
      (fun _ => assignments.map Assignment.column ++ filterColumns filter ⊆ table.columnNames) failure := by
  have assigned := reports.of_subset (List.subset_append_left _ _)
  refine .bind (.mapM fun assignment member => table.cellChange_ends permits assigned assignment
    (List.mem_map_of_mem member)) fun changes known => ?_
  refine .bind (marks_ends typed permits filter (reports.of_subset (List.subset_append_right _ _))) fun _ inside => .ok ?_
  exact List.append_subset.mpr ⟨List.forall_mem_map.mpr known, inside⟩

theorem delete_ends (typed : table.toRelation.HasType table.columns) (permits : Error.Permits failure)
    (condition : Condition) (reports : Error.Reports failure table.columnNames condition.columns) :
    Except.Ends (table.delete condition) (fun _ => condition.columns ⊆ table.columnNames) failure :=
  .bind (marks_ends typed permits (some condition) reports) fun _ known => .ok known

end RowTable

namespace Table
variable {table : Table}

private theorem insert_ends (valid : table.Valid) (tokens : List Token) :
    Except.Ends (table.insert tokens) (fun _ => True) Error.Ordinary :=
  .of_map (contents_insert valid.aligned tokens ▸ table.contents.insert_ends Error.ordinary_permits tokens)

private theorem update_ends (valid : table.Valid) (assignments : List Assignment) (filter : Option Condition) :
    Except.Ends (table.update assignments filter) (fun _ => True) Error.Ordinary := by
  have ends := RowTable.update_ends valid.hasType Error.ordinary_permits assignments filter (Error.ordinary_reports _ _)
  exact (Except.Ends.of_map (contents_update valid.aligned assignments filter ▸ ends)).imp fun _ _ => trivial

private theorem delete_ends (valid : table.Valid) (condition : Condition) :
    Except.Ends (table.delete condition) (fun _ => True) Error.Ordinary := by
  have ends := RowTable.delete_ends valid.hasType Error.ordinary_permits condition (Error.ordinary_reports _ _)
  exact (Except.Ends.of_map (contents_delete valid.aligned condition ▸ ends)).imp fun _ _ => trivial

theorem changed_cells (valid : table.Valid) {assignments : List Assignment} {filter : Option Condition}
    {changes : List CellChange} {rows : List Nat} (resolved : table.cellChanges assignments = .ok changes)
    (found : table.matching filter = .ok rows) :
    ∀ row ∈ rows, ∀ change ∈ changes, ∃ column, table.columns[change.column]? = some column ∧ row < column.values.size := by
  rw [table.cellChanges_eq] at resolved
  rw [matching_eq] at found
  obtain ⟨marks, marked, rfl⟩ := Except.map_eq_ok.mp found
  intro row member change chosen
  have inside := changes_inside resolved change chosen
  refine ⟨table.columns[change.column], List.getElem?_eq_getElem inside, ?_⟩
  rw [valid.aligned _ (List.getElem_mem inside)]
  exact marked_inside marked row member

theorem deleted_rows {filter : Option Condition} {rows : List Nat} (found : table.matching filter = .ok rows) :
    (rows.filter fun row => decide (row < table.rowCount)).length ≤ table.rowCount := by
  rw [matching_eq] at found
  obtain ⟨marks, marked, rfl⟩ := Except.map_eq_ok.mp found
  have distinct : (markedPositions 0 marks).Nodup := (markedPositions_ascending 0 marks).imp Nat.ne_of_lt
  have known : markedPositions 0 marks ⊆ List.range table.rowCount := fun row member =>
    List.mem_range.mpr (marked_inside marked row member)
  calc ((markedPositions 0 marks).filter fun row => decide (row < table.rowCount)).length
    _ ≤ (markedPositions 0 marks).length := List.length_filter_le _ _
    _ ≤ (List.range table.rowCount).length := (List.subperm_of_subset distinct known).length_le
    _ = table.rowCount := List.length_range

end Table

private theorem Catalog.get_ends {catalog : Catalog} (valid : catalog.Valid) (name : String) :
    Except.Ends (catalog.get name) Table.Valid Error.Ordinary := by
  cases found : catalog.get name with
  | ok table => exact .ok (get_valid valid found).2
  | error error =>
    unfold get at found
    split at found
    · cases found
    · cases found
      exact .error id

/-- The rows of an outcome that has rows are typed. -/
def Outcome.Typed : Outcome → Prop
  | relation rows => ∃ columns, rows.HasType columns
  | _ => True

private theorem Outcome.toRelation_ends {outcome : Outcome} (typed : outcome.Typed) :
    Except.Ends outcome.toRelation (fun rows => ∃ columns, rows.HasType columns) Error.Ordinary := by
  cases outcome with
  | relation rows => exact .ok typed
  | _ => exact .error id

namespace Execution
open Stateful

/-- From a valid catalog a computation comes to a valid one, with a result of this kind or an ordinary failure. -/
def Safe (execution : Execution α) (post : α → Prop) : Prop :=
  ∀ catalog, catalog.Valid → (execution catalog).2.Valid ∧ Except.Ends (execution catalog).1 post Error.Ordinary

variable {post : α → Prop} {after : β → Prop}

private theorem Safe.bind {first : Execution α} {next : α → Execution β} (safe : Safe first post)
    (rest : ∀ value, post value → Safe (next value) after) : Safe (first >>= next) after := by
  intro catalog valid
  have reached := safe catalog valid
  rw [bind_run]
  generalize first catalog = result at reached
  rcases result with ⟨_ | value, middle⟩
  · exact reached
  · exact rest value reached.2 middle reached.1

private theorem Safe.lift {result : Except Error α} (ends : Except.Ends result post Error.Ordinary) :
    Safe (liftM result) post := by
  intro catalog valid
  rw [lift_run]
  exact ⟨valid, ends⟩

private theorem Safe.pure {value : α} (holds : post value) : Safe (pure value) post := fun _ valid => ⟨valid, holds⟩

private theorem Safe.onRows {source : Execution Outcome} {operation : Relation → Except Error Relation}
    (safe : Safe source Outcome.Typed)
    (operates : ∀ rows columns, rows.HasType columns →
      Except.Ends (operation rows) (fun result => ∃ columns, result.HasType columns) Error.Ordinary) :
    Safe (onRows source operation) Outcome.Typed := by
  refine safe.bind fun outcome typed => ?_
  refine (Safe.lift (outcome.toRelation_ends typed)).bind fun rows typed => ?_
  obtain ⟨columns, typed⟩ := typed
  exact (Safe.lift (operates rows columns typed)).bind fun result typed => .pure typed

end Execution

namespace Plan
open Execution

private theorem createTable_ends (table : Table) (catalog : Catalog) :
    Except.Ends ((createTable table).run catalog).1 Outcome.Typed Error.Ordinary := by
  rw [run_createTable]
  unfold Catalog.create
  cases catalog.get? table.name with
  | none => exact .ok trivial
  | some present => exact .error id

private theorem dropTable_ends (name : String) (catalog : Catalog) :
    Except.Ends ((dropTable name).run catalog).1 Outcome.Typed Error.Ordinary := by
  rw [run_dropTable]
  unfold Catalog.drop
  cases catalog.get? name with
  | none => exact .error id
  | some table => exact .ok trivial

private theorem insert_ends (name : String) (tokens : List Token) {catalog : Catalog} (valid : catalog.Valid) :
    Except.Ends ((insert name tokens).run catalog).1 Outcome.Typed Error.Ordinary := by
  have computed := (Catalog.get_ends valid name).bind fun table sound => Table.insert_ends sound tokens
  rw [run_insert]
  split
  next => exact .ok trivial
  next failed => rwa [failed] at computed

private theorem update_ends (name : String) (assignments : List Assignment) (filter : Option Condition) {catalog : Catalog}
    (valid : catalog.Valid) :
    Except.Ends ((update name assignments filter).run catalog).1 Outcome.Typed Error.Ordinary := by
  have computed := (Catalog.get_ends valid name).bind fun table sound => Table.update_ends sound assignments filter
  rw [run_update name assignments filter fun table found => (Catalog.get_valid valid found).2.aligned]
  split
  next => exact .ok trivial
  next failed => rwa [failed] at computed

private theorem delete_ends (name : String) (condition : Condition) {catalog : Catalog} (valid : catalog.Valid) :
    Except.Ends ((delete name condition).run catalog).1 Outcome.Typed Error.Ordinary := by
  have computed := (Catalog.get_ends valid name).bind fun table sound => Table.delete_ends sound condition
  rw [run_delete]
  split
  next => exact .ok trivial
  next failed => rwa [failed] at computed

/-- A change is safe if it fails in ordinary ways, for no operation leaves an invalid catalog. -/
theorem safe_of_ends {plan : Plan} (creates : plan.Creates Table.Valid)
    (ends : ∀ catalog, catalog.Valid → Except.Ends (plan.run catalog).1 Outcome.Typed Error.Ordinary) :
    Safe plan.execute Outcome.Typed :=
  fun catalog valid => ⟨plan.execute_valid creates catalog valid, ends catalog valid⟩

private theorem execute_safe (plan : Plan) (creates : plan.Creates Table.Valid) : Safe plan.execute Outcome.Typed := by
  induction plan with
  | createTable table => exact safe_of_ends creates fun catalog _ => createTable_ends table catalog
  | dropTable name => exact safe_of_ends creates fun catalog _ => dropTable_ends name catalog
  | insert name tokens => exact safe_of_ends creates fun catalog valid => insert_ends name tokens valid
  | update name assignments filter =>
    exact safe_of_ends creates fun catalog valid => update_ends name assignments filter valid
  | delete name condition => exact safe_of_ends creates fun catalog valid => delete_ends name condition valid
  | scan name =>
    have reads : Safe get Catalog.Valid := fun catalog valid => ⟨valid, valid⟩
    refine reads.bind fun catalog valid => (Safe.lift (Catalog.get_ends valid name)).bind fun table sound => ?_
    exact .pure ⟨table.schema, table.toRelation_contents ▸ sound.hasType⟩
  | join kind left leftTable right rightTable on ihLeft ihRight =>
    refine (ihLeft creates.1).bind fun leftOutcome typed => ?_
    refine (Safe.lift (leftOutcome.toRelation_ends typed)).bind fun leftRows typed => ?_
    refine (ihRight creates.2).bind fun rightOutcome typedRight => ?_
    refine (Safe.lift (rightOutcome.toRelation_ends typedRight)).bind fun rightRows typedRight => ?_
    obtain ⟨leftColumns, typed⟩ := typed
    obtain ⟨rightColumns, typedRight⟩ := typedRight
    have ends := typed.join_safe typedRight Error.ordinary_permits kind leftTable rightTable on (Error.ordinary_reports _ _)
    refine (Safe.lift ends).bind fun rows joined => .pure ⟨_, joined.2⟩
  | filter source table condition ih =>
    refine (ih creates).onRows fun rows columns typed => ?_
    have ends := typed.filter_safe Error.ordinary_permits table condition (Error.ordinary_reports _ _)
    exact ends.imp fun _ kept => ⟨_, kept.2⟩
  | sort source table keys ih =>
    refine (ih creates).onRows fun rows columns typed => ?_
    exact (typed.sort_safe table keys (Error.ordinary_reports _ _)).imp fun _ sorted => ⟨_, sorted.2⟩
  | project source table names ih =>
    refine (ih creates).onRows fun rows columns typed => ?_
    exact (typed.project_safe table names (Error.ordinary_reports _ _)).imp fun _ result => ⟨_, result.2⟩
  | aggregate source table terms ih =>
    refine (ih creates).onRows fun rows columns typed => ?_
    exact (typed.aggregate_safe Error.ordinary_permits table terms (Error.ordinary_reports _ _)).imp fun _ result => result.2
  | offset source count ih =>
    rw [execute_offset]
    exact (ih creates).onRows fun rows columns typed =>
      .ok ⟨columns, typed.of_subset (List.drop_subset _ _)⟩
  | limit source count ih =>
    rw [execute_limit]
    exact (ih creates).onRows fun rows columns typed => .ok ⟨columns, typed.of_subset (List.take_subset _ _)⟩
  | distinct source ih =>
    rw [execute_distinct]
    exact (ih creates).onRows fun rows columns typed => .ok ⟨columns, typed.of_subset (Relation.firstOccurrences_subset _ _)⟩

def source? : Plan → Option Plan
  | filter source _ _ => some source
  | sort source _ _ => some source
  | project source _ _ => some source
  | aggregate source _ _ => some source
  | offset source _ => some source
  | limit source _ => some source
  | distinct source => some source
  | _ => none

/-- Running a plan on a catalog runs another plan on another catalog, at whatever depth. The right side of a join
runs behind the left side, if that has given rows. -/
inductive Reaches : Plan → Catalog → Plan → Catalog → Prop
  | here {plan : Plan} {catalog : Catalog} : Reaches plan catalog plan catalog
  | source {plan source inner : Plan} {catalog middle : Catalog} (below : plan.source? = some source)
      (reached : Reaches source catalog inner middle) : Reaches plan catalog inner middle
  | left {left right inner : Plan} {kind : JoinKind} {leftTable rightTable : String} {on : JoinCondition}
      {catalog middle : Catalog} (reached : Reaches left catalog inner middle) :
    Reaches (join kind left leftTable right rightTable on) catalog inner middle
  | right {left right inner : Plan} {kind : JoinKind} {leftTable rightTable : String} {on : JoinCondition} {rows : Relation}
      {catalog between middle : Catalog} (ran : left.run catalog = (.ok (.relation rows), between))
      (reached : Reaches right between inner middle) :
    Reaches (join kind left leftTable right rightTable on) catalog inner middle

/-- The cells an UPDATE writes exist, the rows a DELETE takes out are no more than there are, whatever pairs of values
a sort compares have an order, and an average is the quotient of a sum by a number of values that is not zero. -/
def Inside (catalog : Catalog) : Plan → Prop
  | update name assignments condition => ∀ table changes rows, catalog.get name = .ok table →
      table.cellChanges assignments = .ok changes → table.matching condition = .ok rows →
      ∀ row ∈ rows, ∀ change ∈ changes, ∃ column, table.columns[change.column]? = some column ∧ row < column.values.size
  | delete name condition => ∀ table rows, catalog.get name = .ok table → table.matching (some condition) = .ok rows →
      (rows.filter fun row => decide (row < table.rowCount)).length ≤ table.rowCount
  | sort source _ _ => ∀ rows, (source.run catalog).1 = .ok (.relation rows) →
      ∀ first ∈ rows.rows, ∀ second ∈ rows.rows, ∀ (index : Nat) (one other : Value),
        first[index]? = some one → second[index]? = some other → ∃ order, one.compare? other = some order
  | aggregate source table terms => ∀ rows column number, (source.run catalog).1 = .ok (.relation rows) →
      ⟨.avg, column⟩ ∈ terms → rows.aggregateTerm table ⟨.avg, column⟩ = .ok (.int number) →
      ∃ total, Value.sumFrom AggregateFunction.avg.name 0 (presentValues rows.columns rows.rows column) = .ok total ∧
        0 < (presentValues rows.columns rows.rows column).length ∧
        number = total.tdiv (presentValues rows.columns rows.rows column).length
  | _ => True

/-- What holds of a plan and a catalog if nothing can go wrong in running the one on the other but what was asked for. -/
structure SafeOn (catalog : Catalog) (plan : Plan) : Prop where
  valid : catalog.Valid
  left : (plan.run catalog).2.Valid
  regular : ∀ rows, (plan.run catalog).1 = .ok (.relation rows) → rows.Regular
  ordinary : ∀ error, (plan.run catalog).1 = .error error → error.Ordinary
  inside : Inside catalog plan

private theorem creates_source {property : Table → Prop} {plan source : Plan} (below : plan.source? = some source)
    (creates : plan.Creates property) : source.Creates property := by
  cases plan <;> cases below <;> exact creates

/-- Whatever is reached runs on a valid catalog and creates valid tables. -/
theorem Reaches.keeps {plan inner : Plan} {catalog middle : Catalog} (reached : plan.Reaches catalog inner middle)
    (valid : catalog.Valid) (creates : plan.Creates Table.Valid) : middle.Valid ∧ inner.Creates Table.Valid := by
  induction reached with
  | here => exact ⟨valid, creates⟩
  | source below _ ih => exact ih valid (creates_source below creates)
  | left _ ih => exact ih valid creates.1
  | @right left _ _ _ _ _ _ _ catalog between _ ran _ ih =>
    have kept : (left.run catalog).2.Valid := left.execute_valid creates.1 catalog valid
    rw [ran] at kept
    exact ih kept creates.2

private theorem regular_of_run (plan : Plan) {catalog : Catalog} {rows : Relation} (valid : catalog.Valid)
    (creates : plan.Creates Table.Valid) (gave : (plan.run catalog).1 = .ok (.relation rows)) : rows.Regular := by
  have ends := (plan.execute_safe creates catalog valid).2
  change (plan.execute catalog).1 = _ at gave
  rw [gave] at ends
  obtain ⟨columns, typed⟩ := ends
  exact typed.regular

private theorem inside_of_valid {plan : Plan} {catalog : Catalog} (valid : catalog.Valid) (creates : plan.Creates Table.Valid) :
    Inside catalog plan := by
  cases plan with
  | sort source table keys =>
    intro rows gave first member second memberSecond index one other found foundSecond
    exact (source.regular_of_run valid creates gave).comparable member memberSecond found foundSecond
  | update name assignments condition =>
    intro table changes rows found resolved matched
    exact Table.changed_cells (Catalog.get_valid valid found).2 resolved matched
  | delete name condition =>
    intro table rows _ matched
    exact Table.deleted_rows matched
  | aggregate source table terms =>
    intro rows column number _ _ computed
    obtain ⟨positive, total, summed, quotient⟩ :=
      AggregateFunction.average_divides (Relation.aggregateTerm_eq_ok computed).2
    exact ⟨total, summed, positive, quotient⟩
  | _ => trivial

/-- From a valid catalog a plan of any shape runs safely at every level: no operation asks for a cell that is not
there or for an order that does not exist, rows are regular, and the catalog stays valid, also if the plan fails. -/
theorem runs_safely (plan : Plan) {catalog : Catalog} (valid : catalog.Valid) (creates : plan.Creates Table.Valid)
    {inner : Plan} {middle : Catalog} (reached : plan.Reaches catalog inner middle) : SafeOn middle inner := by
  obtain ⟨sound, tables⟩ := reached.keeps valid creates
  obtain ⟨left, ends⟩ := inner.execute_safe tables middle sound
  refine ⟨sound, left, fun rows gave => inner.regular_of_run sound tables gave, fun error failed => ?_, inside_of_valid sound tables⟩
  change (inner.execute middle).1 = _ at failed
  rw [failed] at ends
  exact ends

/-- The right side of a join stores a table that has rows already, and only then turns out to give none. -/
theorem stored_behind_rows :
    let numbers : Table := ⟨"T", [⟨"A", .int, #[.int 1, .null]⟩], 2⟩
    let words : Table := ⟨"U", [⟨"B", .text, #[.null, .text "X", .text "Y"]⟩], 3⟩
    let catalog := Catalog.empty.put "T" numbers
    let plan := join .full (sort (scan "T") "T" [⟨"A", .ascending⟩]) "T" (limit (createTable words) 1) "U" ⟨"T.A", "U.B"⟩
    plan.Creates Table.Valid ∧ plan.Reaches catalog (createTable words) catalog ∧ SafeOn catalog (createTable words) ∧
      plan.run catalog = (.error (.unsupportedCommand "Table 'U' has been created is not a row source"),
        catalog.put "U" words) ∧ (catalog.put "U" words).Valid := by
  intro numbers words catalog plan
  have numbersValid : numbers.Valid := ⟨by decide, by decide, by simp [numbers, Value.datatype?]⟩
  have wordsValid : words.Valid := ⟨by decide, by decide, by simp [words, Value.datatype?]⟩
  have valid : catalog.Valid := Catalog.put_valid Catalog.empty_valid numbersValid (by decide +kernel)
  have creates : plan.Creates Table.Valid := ⟨trivial, wordsValid⟩
  have sorted : (sort (scan "T") "T" [⟨"A", .ascending⟩]).run catalog =
      (.ok (.relation ⟨["A"], [[.null], [.int 1]]⟩), catalog) := by
    decide +kernel
  have reached : plan.Reaches catalog (createTable words) catalog := .right sorted (.source rfl .here)
  have ran : plan.run catalog = (.error (.unsupportedCommand "Table 'U' has been created is not a row source"),
      catalog.put "U" words) := by
    decide +kernel
  have left := (plan.runs_safely valid creates .here).left
  rw [ran] at left
  exact ⟨creates, reached, plan.runs_safely valid creates reached, ran, left⟩

end Plan

end MiniSql

import MiniSql.Proofs.TypedRelation

/-! Well-typed statements do not fail. Whatever an engine has been asked before, a statement that names what exists
and gives values of the types declared for them succeeds, unless a sum overflows. -/

namespace MiniSql

/-- The columns of the rows that a SELECT reads. The operands of ON are columns of one type. -/
inductive Select.HasColumns (catalog : Catalog) (select : Select) : List ColumnDef → Prop
  | table {table : Table} (single : select.join = none) (found : catalog.get select.table = .ok table) :
    HasColumns catalog select table.schema
  | join {other : Join} {left right : Table} {datatype : Datatype} (both : select.join = some other)
      (found : catalog.get select.table = .ok left) (foundOther : catalog.get other.table = .ok right)
      (first : typeOf? (joinedColumns select.table left.schema other.table right.schema) other.on.first = some datatype)
      (second : typeOf? (joinedColumns select.table left.schema other.table right.schema) other.on.second = some datatype) :
    HasColumns catalog select (joinedColumns select.table left.schema other.table right.schema)

/-- Existing columns, or aggregates that make sense for the types of theirs. -/
inductive Projection.WellTyped (columns : List ColumnDef) : Projection → Prop
  | all : WellTyped columns .all
  | columns {names : List String} (known : ∀ name ∈ names, (typeOf? columns name).isSome) :
    WellTyped columns (.items (names.map .column))
  | aggregates {terms : List AggregateTerm} (typed : ∀ term ∈ terms, term.WellTyped columns) :
    WellTyped columns (.items (terms.map .aggregate))

structure Query.WellTyped (columns : List ColumnDef) (query : Query) : Prop where
  filter : ∀ condition ∈ query.filter, condition.WellTyped columns
  order : ∀ key ∈ query.order, (typeOf? columns key.column).isSome
  projection : query.select.projection.WellTyped columns

def Assignment.WellTyped (columns : List ColumnDef) (assignment : Assignment) : Prop :=
  ∃ datatype, typeOf? columns assignment.column = some datatype ∧ assignment.value.HasType datatype

/-- The statement names what exists, and its values are NULL or of the types declared for them. -/
def Statement.WellTyped (catalog : Catalog) : Statement → Prop
  | createTable name columns => catalog.get? name = none ∧ (columns.map ColumnDef.name).Nodup
  | dropTable name => ∃ table, catalog.get name = .ok table
  | insert name tokens => ∃ table, catalog.get name = .ok table ∧
      List.Forall₂ (fun column token => Token.HasType token column.datatype) table.schema tokens
  | query q => ∃ columns, q.select.HasColumns catalog columns ∧ q.WellTyped columns
  | update name assignments filter => ∃ table, catalog.get name = .ok table ∧
      (∀ assignment ∈ assignments, assignment.WellTyped table.schema) ∧
      ∀ condition ∈ filter, condition.WellTyped table.schema
  | delete name condition => ∃ table, catalog.get name = .ok table ∧ condition.WellTyped table.schema

def Projection.terms : Projection → List AggregateTerm
  | all => []
  | items chosen => chosen.filterMap Plan.term?

def Statement.terms : Statement → List AggregateTerm
  | query q => q.select.projection.terms
  | _ => []

theorem Table.Valid.hasType {table : Table} (valid : table.Valid) : table.contents.toRelation.HasType table.schema := by
  refine ⟨rfl, fun row member => ?_⟩
  have typed := valid.contents_typed row member
  obtain ⟨index, _, rfl⟩ := List.mem_map.mp member
  refine List.forall₂_of_length_eq_of_get (by simp) fun position inside insideRow => ?_
  exact typed position _ _ (List.getElem?_eq_getElem insideRow) (List.getElem?_eq_getElem inside)

private theorem ColumnDef.valueOf_returns {column : ColumnDef} {token : Token} (command : Keyword)
    (typed : token.HasType column.datatype) :
    Except.Returns (column.valueOf command token) fun value => value.fits column.datatype := by
  refine .bind typed fun value fits => ?_
  rw [if_pos fits]
  exact .ok fits

namespace RowTable
variable {table : RowTable}

private theorem insert_returns {tokens : List Token}
    (typed : List.Forall₂ (fun column token => Token.HasType token column.datatype) table.columns tokens) :
    Except.Returns (table.insert tokens) fun _ => True := by
  have row := Except.Returns.mapM fun (entry : ColumnDef × Token) (member : entry ∈ table.columns.zip tokens) =>
    (entry.1.valueOf_returns .INSERT (List.forall₂_zip typed member)).imp fun _ _ => trivial
  unfold insert typedRow
  rw [if_neg (not_not.mpr typed.length_eq.symm)]
  exact .bind row fun row _ => .ok trivial

private theorem marks_returns {filter : Option Condition} (typed : table.toRelation.HasType table.columns)
    (wellTyped : ∀ condition ∈ filter, condition.WellTyped table.columns) :
    Except.Returns (table.marks filter) fun _ => True := by
  cases filter with
  | none => exact .ok trivial
  | some condition =>
    have own := wellTyped condition rfl
    refine .bind (condition.check_returns table.name own) fun _ _ => ?_
    have evaluated := Except.Returns.mapM fun row member => condition.holds_returns table.name own (typed.rows row member)
    exact evaluated.imp fun _ _ => trivial

theorem cellChange_returns {assignment : Assignment} (wellTyped : assignment.WellTyped table.columns) :
    Except.Returns (table.cellChange assignment) fun _ => True := by
  obtain ⟨datatype, found, typed⟩ := wellTyped
  obtain ⟨column, place, rfl⟩ := typeOf?_place found
  refine .step (position_of_typeOf? table.name found) ?_
  rw [place]
  exact .bind (column.valueOf_returns .UPDATE typed) fun value _ => .ok trivial

private theorem update_returns {assignments : List Assignment} {filter : Option Condition}
    (typed : table.toRelation.HasType table.columns)
    (assigned : ∀ assignment ∈ assignments, assignment.WellTyped table.columns)
    (wellTyped : ∀ condition ∈ filter, condition.WellTyped table.columns) :
    Except.Returns (table.update assignments filter) fun _ => True := by
  refine .bind (.mapM fun assignment member => cellChange_returns (assigned assignment member)) fun changes _ => ?_
  exact .bind (marks_returns typed wellTyped) fun marks _ => .ok trivial

private theorem delete_returns {condition : Condition} (typed : table.toRelation.HasType table.columns)
    (wellTyped : condition.WellTyped table.columns) : Except.Returns (table.delete condition) fun _ => True := by
  have own : ∀ filter ∈ some condition, filter.WellTyped table.columns := by simpa using wellTyped
  exact .bind (marks_returns typed own) fun marks _ => .ok trivial

end RowTable

namespace Projection

private theorem columns_of_columns (names : List String) : (names.map SelectItem.column).filterMap Plan.column? = names := by
  simp [List.filterMap_map, Function.comp_def, Plan.column?]

private theorem terms_of_columns (names : List String) : (names.map SelectItem.column).filterMap Plan.term? = [] := by
  simp [List.filterMap_map, Plan.term?]

theorem columns_of_terms (terms : List AggregateTerm) : (terms.map SelectItem.aggregate).filterMap Plan.column? = [] := by
  simp [List.filterMap_map, Plan.column?]

theorem terms_of_terms (terms : List AggregateTerm) : (terms.map SelectItem.aggregate).filterMap Plan.term? = terms := by
  simp [List.filterMap_map, Function.comp_def, Plan.term?]

variable {projection : Projection} {columns : List ColumnDef}

private theorem check_succeeds (wellTyped : projection.WellTyped columns) : RowDatabase.checkProjection projection = .ok () := by
  cases wellTyped with
  | all => rfl
  | columns known => exact if_pos (.inr (by rw [terms_of_columns]; rfl))
  | aggregates typed => exact if_pos (.inl (by rw [columns_of_terms]; rfl))

private theorem choose_fails {rows : Relation} {table : String} {error : Error} (typed : rows.HasType columns)
    (wellTyped : projection.WellTyped columns) (failed : RowDatabase.choose table rows projection = .error error) :
    ∃ term ∈ projection.terms, term.function.Sums ∧ error = term.function.overflow := by
  cases wellTyped with
  | all => cases failed
  | columns known =>
    obtain ⟨result, done, _⟩ := typed.project_returns known table
    simp only [RowDatabase.choose, terms_of_columns, columns_of_columns, done] at failed
    cases failed
  | @aggregates terms own =>
    simp only [RowDatabase.choose, Projection.terms, terms_of_terms, columns_of_terms] at failed ⊢
    split at failed
    next =>
      obtain ⟨result, done, _⟩ := typed.project_returns (List.forall_mem_nil _) table
      cases failed.symm.trans done
    next => exact typed.aggregate_fails own failed

end Projection

namespace Query
variable {catalog : Catalog} {columns : List ColumnDef} {query : Query} {error : Error}

theorem source_returns (valid : catalog.Valid) {select : Select} (known : select.HasColumns catalog columns) :
    Except.Returns (catalog.contents.source select) fun source => source.HasType columns := by
  cases known with
  | table single found =>
    refine .step (catalog.table_of_get found) ?_
    rw [single]
    exact .ok (Catalog.get_valid valid found).2.hasType
  | join both found foundOther first second =>
    refine .step (catalog.table_of_get found) ?_
    rw [both]
    refine .step (catalog.table_of_get foundOther) ?_
    have typed := (Catalog.get_valid valid found).2.hasType
    exact typed.join_returns (Catalog.get_valid valid foundOther).2.hasType first second _

private theorem keep_returns {source : Relation} (typed : source.HasType columns) (wellTyped : query.WellTyped columns) :
    Except.Returns (RowDatabase.keep query.select.table source query.filter) fun kept => kept.HasType columns := by
  unfold RowDatabase.keep
  split
  next condition present => exact typed.filter_returns (wellTyped.filter condition present) _
  next => exact .ok typed

private theorem order_returns {kept : Relation} (typed : kept.HasType columns) (wellTyped : query.WellTyped columns) :
    Except.Returns (RowDatabase.order query.select.table kept query.order) fun sorted => sorted.HasType columns := by
  unfold RowDatabase.order
  split
  · exact .ok typed
  · exact typed.sort_returns wellTyped.order _

private theorem answer_fails (valid : catalog.Valid) (known : query.select.HasColumns catalog columns)
    (wellTyped : query.WellTyped columns) (failed : catalog.contents.answer query = .error error) :
    ∃ term ∈ query.select.projection.terms, term.function.Sums ∧ error = term.function.overflow := by
  obtain ⟨source, read, typed⟩ := source_returns valid known
  obtain ⟨kept, passed, typed⟩ := keep_returns typed wellTyped
  obtain ⟨sorted, arranged, typed⟩ := order_returns typed wellTyped
  have failed := Except.rest_fails (Projection.check_succeeds wellTyped.projection) failed
  have failed := Except.rest_fails read failed
  have failed := Except.rest_fails passed failed
  have failed := Except.rest_fails arranged failed
  rcases Except.bind_eq_error.mp failed with failed | ⟨_, _, impossible⟩
  · exact Projection.choose_fails typed wellTyped.projection failed
  · cases impossible

end Query

private theorem Statement.apply_fails {statement : Statement} {catalog : Catalog} {error : Error} (valid : catalog.Valid)
    (wellTyped : statement.WellTyped catalog) (failed : catalog.contents.apply statement = .error error) :
    ∃ term ∈ statement.terms, term.function.Sums ∧ error = term.function.overflow := by
  cases statement with
  | createTable name columns =>
    obtain ⟨free, distinct⟩ := wellTyped
    have absent : catalog.contents (Catalog.key name) = none := by
      rw [Catalog.contents, show catalog.find? (Catalog.key name) = none from free]
      rfl
    have unrepeated : firstRepeated [] (columns.map ColumnDef.name) = none :=
      Table.firstRepeated_of_nodup distinct (by simp)
    simp only [RowDatabase.apply, unrepeated, absent] at failed
    cases failed
  | dropTable name =>
    obtain ⟨table, found⟩ := wellTyped
    cases Except.rest_fails (catalog.table_of_get found) failed
  | insert name tokens =>
    obtain ⟨table, found, typed⟩ := wellTyped
    obtain ⟨after, done, _⟩ : Except.Returns (table.contents.insert tokens) _ := RowTable.insert_returns typed
    have failed := Except.rest_fails (catalog.table_of_get found) failed
    cases Except.rest_fails done failed
  | query query =>
    obtain ⟨columns, known, wellTyped⟩ := wellTyped
    rcases Except.bind_eq_error.mp failed with failed | ⟨_, _, impossible⟩
    · exact Query.answer_fails valid known wellTyped failed
    · cases impossible
  | update name assignments filter =>
    obtain ⟨table, found, assigned, wellTyped⟩ := wellTyped
    obtain ⟨after, done, _⟩ := RowTable.update_returns (Catalog.get_valid valid found).2.hasType assigned wellTyped
    have failed := Except.rest_fails (catalog.table_of_get found) failed
    cases Except.rest_fails done failed
  | delete name condition =>
    obtain ⟨table, found, wellTyped⟩ := wellTyped
    obtain ⟨after, done, _⟩ := RowTable.delete_returns (Catalog.get_valid valid found).2.hasType wellTyped
    have failed := Except.rest_fails (catalog.table_of_get found) failed
    cases Except.rest_fails done failed

/-- Whatever an engine has been asked before, a well-typed statement succeeds. The only exception is a statement that
computes a sum or an average, if its total leaves the integers. -/
theorem Engine.wellTyped_succeeds (requests : List Request) (statement : Statement)
    (wellTyped : statement.WellTyped (performAll requests .empty)) :
    let answer := (statement.run (performAll requests .empty)).1
    (∃ outcome, answer = .ok outcome) ∨
      ∃ term ∈ statement.terms,
        term.function = .sum ∧ answer = .error (.unsupportedValue "SUM overflows INT") ∨
        term.function = .avg ∧ answer = .error (.unsupportedValue "AVG overflows INT") := by
  intro answer
  have valid := performAll_valid requests Catalog.empty_valid
  have agrees : answer = _ := (statement.run_agrees valid).answer
  cases ran : answer with
  | ok outcome => exact .inl ⟨outcome, rfl⟩
  | error error =>
    rw [agrees] at ran
    obtain ⟨term, member, sums, rfl⟩ := statement.apply_fails valid wellTyped (Except.map_eq_error.mp ran)
    refine .inr ⟨term, member, ?_⟩
    rcases sums with sum | avg
    · exact .inl ⟨sum, by rw [sum]; rfl⟩
    · exact .inr ⟨avg, by rw [avg]; rfl⟩

/-- Padded rows are filtered and sorted by columns of both tables, and a smallest text is looked for. -/
theorem Engine.wellTyped_join_succeeds :
    let text := "CREATE TABLE T(A INT); CREATE TABLE U(B TEXT, C INT); INSERT INTO U VALUES('X', NULL);"
    let catalog := performAll [.execute text] .empty
    let terms : List AggregateTerm := [⟨.min, "U.B"⟩, ⟨.count, "T.A"⟩]
    let select : Select := ⟨"T", .items (terms.map .aggregate), false, some ⟨.full, "U", ⟨"T.A", "U.C"⟩⟩⟩
    let filter : Condition := .compare "U.B" .notEqual ⟨.ident, "Z"⟩
    let statement := Statement.query ⟨select, some filter, [⟨"T.A", .descending⟩], none, none⟩
    statement.WellTyped catalog ∧ ∃ outcome, (statement.run catalog).1 = .ok outcome := by
  intro text catalog terms select filter statement
  obtain ⟨left, right⟩ : catalog.get "T" = .ok ⟨"T", [⟨"A", .int, #[]⟩], 0⟩ ∧
      catalog.get "U" = .ok ⟨"U", [⟨"B", .text, #[.text "X"]⟩, ⟨"C", .int, #[.null]⟩], 1⟩ := by
    decide +kernel
  have unsummed : ∀ term ∈ terms, term.function ≠ .sum ∧ term.function ≠ .avg := by decide
  have wellTyped : statement.WellTyped catalog := by
    have first : typeOf? [⟨"T.A", .int⟩, ⟨"U.B", .text⟩, ⟨"U.C", .int⟩] "T.A" = some .int := rfl
    refine ⟨_, .join rfl left right first rfl, ?_, ?_, .aggregates ?_⟩
    · rintro condition ⟨⟩
      exact ⟨.text, rfl, .text "Z", rfl, rfl⟩
    · exact List.forall_mem_singleton.mpr rfl
    · have known : ∀ term ∈ terms, (typeOf? [⟨"T.A", .int⟩, ⟨"U.B", .text⟩, ⟨"U.C", .int⟩] term.column).isSome := by
        decide
      intro term member
      obtain ⟨datatype, found⟩ := Option.isSome_iff_exists.mp (known term member)
      exact ⟨datatype, found, fun sums => (sums.elim (unsummed term member).1 (unsummed term member).2).elim⟩
  refine ⟨wellTyped, (wellTyped_succeeds _ statement wellTyped).resolve_right ?_⟩
  rintro ⟨term, member, ⟨sum, _⟩ | ⟨avg, _⟩⟩
  · exact (unsummed term member).1 sum
  · exact (unsummed term member).2 avg

end MiniSql

import MiniSql.Proofs.Independence
import MiniSql.Proofs.PlanSafety

/-! Names are looked up before any row is touched. Whether the tables that a statement mentions are there, and whether
the columns that it names are among theirs, depends on the header of the catalog alone; a statement with a name that is
not there fails whatever the rows, and no other statement fails because of a name. -/

namespace MiniSql

/-- What a catalog knows of its tables apart from their rows: the names of the columns of each. -/
def Catalog.header (catalog : Catalog) (name : String) : Option (List String) :=
  (catalog.get? name).map Table.columnNames

def SelectItem.columnName : SelectItem → String
  | .column name => name
  | .aggregate term => term.column

def Projection.columns : Projection → List String
  | .all => []
  | .items chosen => chosen.map SelectItem.columnName

def JoinCondition.columns (on : JoinCondition) : List String := [on.first, on.second]

def Select.operands (select : Select) : List String := (select.join.map fun join => join.on.columns).getD []

/-- Everything a query names, in the order in which it is looked up. -/
def Query.columns (query : Query) : List String :=
  query.select.operands ++ (filterColumns query.filter ++ (query.order.map SortKey.column ++ query.select.projection.columns))

/-- The columns of the rows a SELECT reads. -/
def Select.scope (header : String → Option (List String)) (select : Select) : List String :=
  match select.join with
  | none => (header select.table).getD []
  | some join => Relation.qualify select.table ((header select.table).getD []) ++
      Relation.qualify join.table ((header join.table).getD [])

namespace Statement

def columns : Statement → List String
  | createTable _ _ => []
  | dropTable _ => []
  | insert _ _ => []
  | query question => question.columns
  | update _ assignments filter => assignments.map Assignment.column ++ filterColumns filter
  | delete _ condition => condition.columns

/-- The names that a column of the statement may have. -/
def scope (header : String → Option (List String)) : Statement → List String
  | createTable _ _ => []
  | dropTable table => (header table).getD []
  | insert table _ => (header table).getD []
  | query question => question.select.scope header
  | update table _ _ => (header table).getD []
  | delete table _ => (header table).getD []

variable (header : String → Option (List String))

/-- All tables that the statement mentions are there. -/
def FindsTables (statement : Statement) : Prop := ∀ table ∈ statement.tables, header table ≠ none

def Resolved (statement : Statement) : Prop := statement.FindsTables header ∧ statement.columns ⊆ statement.scope header

/-- A table is not there, or a column is not where it is named. -/
def Unresolved (statement : Statement) : Prop :=
  (∃ table ∈ statement.tables, header table = none) ∨ ∃ column ∈ statement.columns, column ∉ statement.scope header

private theorem Resolved.not_unresolved {statement : Statement} (resolved : statement.Resolved header) :
    ¬ statement.Unresolved header := by
  rintro (⟨table, mentioned, missing⟩ | ⟨column, named, absent⟩)
  · exact resolved.1 table mentioned missing
  · exact absent (resolved.2 named)

/-- A failure to find a name is about a name of the statement that is not there. -/
def Explains (statement : Statement) : Error → Prop
  | .unknownTable table => table ∈ statement.tables ∧ header table = none
  | .unknownColumn _ column => statement.FindsTables header ∧ column ∈ statement.columns ∧ column ∉ statement.scope header
  | _ => True

private theorem explains_permits (statement : Statement) : Error.Permits (statement.Explains header) := by
  intro error plain
  cases error with
  | unknownTable table => exact plain.elim
  | unknownColumn table column => exact plain.elim
  | _ => trivial

variable {header}

private theorem explains_reports {statement : Statement} (found : statement.FindsTables header) :
    Error.Reports (statement.Explains header) (statement.scope header) statement.columns :=
  fun _ named absent _ => ⟨found, named, absent⟩

end Statement

private theorem Catalog.table_ends {catalog : Catalog} (valid : catalog.Valid) (failure : Error → Prop) (name : String)
    (missing : catalog.header name = none → failure (.unknownTable name)) :
    Except.Ends (catalog.contents.table name)
      (fun table => catalog.header name = some table.columnNames ∧ table.toRelation.HasType table.columns) failure := by
  cases found : catalog.get? name with
  | none =>
    have absent : catalog.contents.table name = .error (.unknownTable name) := by
      rw [RowDatabase.table, contents, show catalog.find? (key name) = none from found]
      rfl
    rw [absent]
    exact .error (missing (congrArg (Option.map Table.columnNames) found))
  | some table =>
    have present : catalog.get name = .ok table := get_eq_ok.mpr found
    rw [catalog.table_of_get present]
    refine .ok ⟨?_, (get_valid valid present).2.hasType⟩
    rw [header, found, Table.columnNames_contents]
    rfl

namespace Projection

def Unmixed (projection : Projection) : Prop :=
  ∀ chosen, projection = .items chosen → chosen.filterMap Plan.column? = [] ∨ chosen.filterMap Plan.term? = []

private theorem mem_columns {items : List SelectItem} {name : String} : name ∈ (Projection.items items).columns ↔
    name ∈ items.filterMap Plan.column? ∨ name ∈ (items.filterMap Plan.term?).map AggregateTerm.column := by
  induction items with
  | nil => simp [columns]
  | cons item items ih =>
    have step : name ∈ (Projection.items (item :: items)).columns ↔
        name = item.columnName ∨ name ∈ (Projection.items items).columns := List.mem_cons
    rw [step, ih]
    cases item with
    | column own => simp [SelectItem.columnName, Plan.column?, Plan.term?, or_assoc]
    | aggregate term => simp [SelectItem.columnName, Plan.column?, Plan.term?, or_left_comm]

end Projection

namespace RowDatabase
variable {catalog : Catalog} {columns : List ColumnDef} {rows : Relation} {failure : Error → Prop}

private theorem keep_ends (typed : rows.HasType columns) (permits : Error.Permits failure) (table : String)
    (filter : Option Condition) (reports : Error.Reports failure (columns.map ColumnDef.name) (filterColumns filter)) :
    Except.Ends (keep table rows filter)
      (fun kept => filterColumns filter ⊆ columns.map ColumnDef.name ∧ kept.HasType columns) failure := by
  cases filter with
  | none => exact .ok ⟨List.nil_subset _, typed⟩
  | some condition => exact typed.filter_safe permits table condition reports

private theorem order_ends (typed : rows.HasType columns) (table : String) (keys : List SortKey)
    (reports : Error.Reports failure (columns.map ColumnDef.name) (keys.map SortKey.column)) :
    Except.Ends (order table rows keys)
      (fun sorted => keys.map SortKey.column ⊆ columns.map ColumnDef.name ∧ sorted.HasType columns) failure := by
  unfold order
  split
  next none =>
    obtain rfl := List.isEmpty_iff.mp none
    exact .ok ⟨List.nil_subset _, typed⟩
  next => exact typed.sort_safe table keys reports

theorem checkProjection_ends (permits : Error.Permits failure) (projection : Projection) :
    Except.Ends (checkProjection projection) (fun _ => projection.Unmixed) failure := by
  unfold checkProjection
  split
  next => exact .ok nofun
  next items =>
    split
    next unmixed =>
      refine .ok fun chosen same => ?_
      cases same
      exact unmixed.imp List.isEmpty_iff.mp List.isEmpty_iff.mp
    next => exact .error (permits _ id)

private theorem choose_ends (typed : rows.HasType columns) (permits : Error.Permits failure) (table : String)
    (projection : Projection) (unmixed : projection.Unmixed)
    (reports : Error.Reports failure (columns.map ColumnDef.name) projection.columns) :
    Except.Ends (choose table rows projection) (fun _ => projection.columns ⊆ columns.map ColumnDef.name) failure := by
  cases projection with
  | all => exact .ok (List.nil_subset _)
  | items items =>
    have plain := reports.of_subset fun name member => Projection.mem_columns.mpr (.inl member)
    have inTerms := reports.of_subset fun name member => Projection.mem_columns.mpr (.inr member)
    simp only [choose]
    split
    next noTerms =>
      refine .imp (typed.project_safe table _ plain) fun _ result name named => ?_
      rcases Projection.mem_columns.mp named with member | member
      · exact result.1 member
      · rw [noTerms] at member
        cases member
    next terms =>
      have noColumns : items.filterMap Plan.column? = [] := (unmixed items rfl).resolve_right terms
      refine .imp (typed.aggregate_safe permits table _ inTerms) fun _ result name named => ?_
      rcases Projection.mem_columns.mp named with member | member
      · rw [noColumns] at member
        cases member
      · exact result.1 member

theorem source_ends (valid : catalog.Valid) (query : Query) :
    Except.Ends (catalog.contents.source query.select)
      (fun source => ∃ columns, source.HasType columns ∧ columns.map ColumnDef.name = query.select.scope catalog.header ∧
        (Statement.query query).FindsTables catalog.header ∧ query.select.operands ⊆ query.select.scope catalog.header)
      ((Statement.query query).Explains catalog.header) := by
  have own := Catalog.table_ends valid ((Statement.query query).Explains catalog.header) query.select.table
    fun missing => ⟨List.mem_cons_self, missing⟩
  refine .bind own fun table found => ?_
  obtain ⟨known, typed⟩ := found
  cases both : query.select.join with
  | none =>
    have scope : query.select.scope catalog.header = table.columnNames := by simp [Select.scope, both, known]
    have found : (Statement.query query).FindsTables catalog.header := by
      simp [Statement.FindsTables, Statement.tables, both, known]
    refine .ok ⟨table.columns, typed, scope.symm, found, ?_⟩
    simp [Select.operands, both]
  | some join =>
    have mentioned : join.table ∈ (Statement.query query).tables := by simp [Statement.tables, both]
    refine .bind (Catalog.table_ends valid _ join.table fun missing => ⟨mentioned, missing⟩) fun other foundOther => ?_
    obtain ⟨knownOther, typedOther⟩ := foundOther
    have found : (Statement.query query).FindsTables catalog.header := by
      simp [Statement.FindsTables, Statement.tables, both, known, knownOther]
    have scope : (joinedColumns query.select.table table.columns join.table other.columns).map ColumnDef.name =
        query.select.scope catalog.header := by
      rw [joinedColumns, List.map_append, names_qualified, names_qualified]
      simp [Select.scope, both, known, knownOther, RowTable.columnNames]
    have operands : query.select.operands = [join.on.first, join.on.second] := by
      simp [Select.operands, both, JoinCondition.columns]
    have reports := (Statement.explains_reports found).of_subset
      (operands ▸ List.subset_append_left query.select.operands _ : [join.on.first, join.on.second] ⊆ query.columns)
    refine (typed.join_safe typedOther (Statement.explains_permits _ _) join.kind query.select.table join.table join.on
      (scope ▸ reports)).imp fun joined result => ?_
    exact ⟨_, result.2, scope, found, operands ▸ scope ▸ result.1⟩

private theorem answer_ends (valid : catalog.Valid) (query : Query) :
    Except.Ends (catalog.contents.answer query) (fun _ => (Statement.query query).Resolved catalog.header)
      ((Statement.query query).Explains catalog.header) := by
  have permits := Statement.explains_permits catalog.header (.query query)
  refine .bind (checkProjection_ends permits query.select.projection) fun _ unmixed => ?_
  refine .bind (source_ends valid query) fun source read => ?_
  obtain ⟨columns, typed, scope, found, operands⟩ := read
  have names : (Statement.query query).scope catalog.header = columns.map ColumnDef.name := scope.symm
  have reports := Statement.explains_reports found
  rw [names] at reports
  have clauses := reports.of_subset (List.subset_append_right query.select.operands _)
  have arranged := clauses.of_subset (List.subset_append_right (filterColumns query.filter) _)
  have last := arranged.of_subset (List.subset_append_right (query.order.map SortKey.column) _)
  refine .bind (keep_ends typed permits _ query.filter (clauses.of_subset (List.subset_append_left _ _))) fun kept passed => ?_
  refine .bind (order_ends passed.2 _ query.order (arranged.of_subset (List.subset_append_left _ _))) fun sorted placed => ?_
  refine .bind (choose_ends placed.2 permits _ query.select.projection unmixed last) fun chosen inside => .ok ?_
  refine ⟨found, List.append_subset.mpr ⟨operands, names ▸ ?_⟩⟩
  exact List.append_subset.mpr ⟨passed.1, List.append_subset.mpr ⟨placed.1, inside⟩⟩

private theorem apply_ends (valid : catalog.Valid) (statement : Statement) :
    Except.Ends (catalog.contents.apply statement)
      (fun _ => (∀ name columns, statement ≠ .createTable name columns) → statement.Resolved catalog.header)
      (statement.Explains catalog.header) := by
  have permits := statement.explains_permits catalog.header
  have lookup (name : String) (mentioned : statement.tables = [name]) :=
    Catalog.table_ends valid (statement.Explains catalog.header) name fun missing => ⟨by simp [mentioned], missing⟩
  have finds {name : String} {names : List String} (mentioned : statement.tables = [name])
      (known : catalog.header name = some names) : statement.FindsTables catalog.header := by
    simp [Statement.FindsTables, mentioned, known]
  cases statement with
  | createTable name columns =>
    simp only [apply]
    split
    · exact .error trivial
    · exact .error trivial
    · exact .ok fun different => absurd rfl (different name columns)
  | dropTable name =>
    refine .bind (lookup name rfl) fun table found => .ok fun _ => ?_
    exact ⟨finds rfl found.1, List.nil_subset _⟩
  | insert name tokens =>
    refine .bind (lookup name rfl) fun table found => ?_
    refine .bind (table.insert_ends permits tokens) fun after _ => .ok fun _ => ?_
    exact ⟨finds rfl found.1, List.nil_subset _⟩
  | query question => exact .bind (answer_ends valid question) fun _ resolved => .ok fun _ => resolved
  | update name assignments filter =>
    refine .bind (lookup name rfl) fun table found => ?_
    have scope : (Statement.update name assignments filter).scope catalog.header = table.columnNames := by
      simp [Statement.scope, found.1]
    have reports := scope ▸ Statement.explains_reports (finds rfl found.1)
    refine .bind (RowTable.update_ends found.2 permits assignments filter reports) fun after known => .ok fun _ => ?_
    exact ⟨finds rfl found.1, scope ▸ known⟩
  | delete name condition =>
    refine .bind (lookup name rfl) fun table found => ?_
    have scope : (Statement.delete name condition).scope catalog.header = table.columnNames := by
      simp [Statement.scope, found.1]
    have reports := scope ▸ Statement.explains_reports (finds rfl found.1)
    refine .bind (RowTable.delete_ends found.2 permits condition reports) fun after known => .ok fun _ => ?_
    exact ⟨finds rfl found.1, scope ▸ known⟩

end RowDatabase

namespace Statement

private theorem run_ends (statement : Statement) {catalog : Catalog} (valid : catalog.Valid) :
    Except.Ends (statement.run catalog).1
      (fun _ => (∀ name columns, statement ≠ createTable name columns) → statement.Resolved catalog.header)
      (statement.Explains catalog.header) := by
  rw [(statement.run_agrees valid).answer]
  exact (RowDatabase.apply_ends valid statement).bind fun _ resolved => .ok resolved

/-- A statement other than CREATE that has a name which is not there fails on all catalogs with this header, whatever
is in their tables, and leaves them as they are. A failure to find a name is always due to a name of this kind, that of a
table that the statement mentions or, if all of these are there, of a column that it names. -/
theorem unresolved_fails (statement : Statement) (header : String → Option (List String)) :
    ((∀ name columns, statement ≠ createTable name columns) → statement.Unresolved header →
      ∀ catalog : Catalog, catalog.Valid → catalog.header = header →
        ∃ error, statement.run catalog = (.error error, catalog)) ∧
    ∀ catalog : Catalog, catalog.Valid → catalog.header = header →
      (∀ table, (statement.run catalog).1 = .error (.unknownTable table) →
        table ∈ statement.tables ∧ header table = none) ∧
      ∀ table column, (statement.run catalog).1 = .error (.unknownColumn table column) →
        (∀ mentioned ∈ statement.tables, header mentioned ≠ none) ∧
          column ∈ statement.columns ∧ column ∉ statement.scope header := by
  constructor
  · rintro different unresolved catalog valid rfl
    have ends := statement.run_ends valid
    cases ran : (statement.run catalog).1 with
    | ok outcome => exact absurd unresolved ((ends.result ran different).not_unresolved _)
    | error error => exact ⟨error, Prod.ext ran ((statement.run_agrees valid).unchanged ran)⟩
  · rintro catalog valid rfl
    have ends := statement.run_ends valid
    constructor
    · intro table ran
      rw [ran] at ends
      exact ends
    · intro table column ran
      rw [ran] at ends
      exact ends

/-- The column stands behind an OR that is decided without it, and no row is asked for; with rows or without, its
absence is the failure. -/
theorem skipped_name_fails :
    let bare := Catalog.empty.put "T" ⟨"T", [⟨"A", .int, #[]⟩], 0⟩
    let filled := Catalog.empty.put "T" ⟨"T", [⟨"A", .int, #[.int 1, .null]⟩], 2⟩
    let condition := Condition.or (.constant true) (.compare "B" .equal ⟨.literal, "1"⟩)
    let statement := query ⟨⟨"T", .all, false, none⟩, some condition, [], some 0, none⟩
    bare.Valid ∧ filled.Valid ∧ filled.header = bare.header ∧ statement.Unresolved bare.header ∧
      (∃ error, statement.run bare = (.error error, bare)) ∧ (∃ error, statement.run filled = (.error error, filled)) ∧
      "B" ∈ statement.columns ∧ "B" ∉ statement.scope bare.header := by
  intro bare filled condition statement
  have valid : bare.Valid :=
    Catalog.put_valid Catalog.empty_valid ⟨by decide, by decide, by simp⟩ (by decide +kernel)
  have validFilled : filled.Valid :=
    Catalog.put_valid Catalog.empty_valid ⟨by decide, by decide, by simp [Value.datatype?]⟩ (by decide +kernel)
  have same : filled.header = bare.header := by
    funext name
    simp only [Catalog.header, Catalog.get?, bare, filled, Catalog.find?_put]
    split <;> rfl
  have ran : (statement.run bare).1 = .error (.unknownColumn "T" "B") := by decide +kernel
  obtain ⟨_, named, absent⟩ := ((unresolved_fails statement bare.header).2 bare valid rfl).2 "T" "B" ran
  have unresolved : statement.Unresolved bare.header := .inr ⟨"B", named, absent⟩
  have fails := (unresolved_fails statement bare.header).1 (by simp [statement]) unresolved
  exact ⟨valid, validFilled, same, unresolved, fails bare valid rfl, fails filled validFilled same, named, absent⟩

end Statement

end MiniSql

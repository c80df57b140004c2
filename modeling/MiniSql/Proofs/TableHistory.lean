import MiniSql.Proofs.QueryMeaning

/-! Tables under their own interface. Appending a row, changing a cell and deleting rows each work on the columns and on a
number of rows that is kept apart from them. Whatever has been done so far, the table is a list of rows to all who read it. -/

namespace MiniSql.Table

inductive Operation where
  | append (row : Row)
  | setCell (row column : Nat) (value : Value)
  | deleteRows (positions : List Nat)

namespace Operation

def perform (table : Table) : Operation → Except Error Table
  | append row => table.append row
  | setCell row column value => table.setCell row column value
  | deleteRows positions => .ok (table.deleteRows positions)

/-- A cell to be changed exists, and positions are given in ascending order, no matter whether there are such rows. -/
def Proper (table : Table) : Operation → Prop
  | append _ => True
  | setCell row column _ => ∃ target, table.columns[column]? = some target ∧ row < target.values.size
  | deleteRows positions => positions.Pairwise (· < ·)

/-- What the operation is to do to a list of rows of this width. -/
def onRows (width : Nat) (rows : List Row) : Operation → Except Error (List Row)
  | append row =>
    if row.length = width then .ok (rows ++ [row]) else .error (.valueCount width row.length Keyword.INSERT.text)
  | setCell row column value => .ok (rows.modify row fun cells => cells.set column value)
  | deleteRows positions => .ok (rowsAt (fun index => index ∉ positions) rows)

end Operation

/-- What fails leaves what was there. -/
def settle (before : α) : Except Error α → α
  | .ok after => after
  | .error _ => before

def step (table : Table) (operation : Operation) : Table := settle table (operation.perform table)

def after (table : Table) (operations : List Operation) : Table := operations.foldl step table

def stepRows (width : Nat) (rows : List Row) (operation : Operation) : List Row :=
  settle rows (operation.onRows width rows)

def rowsAfter (width : Nat) (rows : List Row) (operations : List Operation) : List Row :=
  operations.foldl (stepRows width) rows

/-- Each operation is proper on the table it finds. -/
def ProperHistory (table : Table) : List Operation → Prop
  | [] => True
  | operation :: later => operation.Proper table ∧ (table.step operation).ProperHistory later

/-- All that can be read of the table is read off these rows, and each cell that is read is there. A record gives each
name the cell of its column. -/
structure Shows (table : Table) (rows : List Row) : Prop where
  count : table.rowCount = rows.length
  held : ∀ (index : Nat) (row : Row), rows[index]? = some row →
    table.columns.map (fun column => column.values[index]?) = row.map some
  all : table.rows = rows
  row : ∀ index, table.row? index = rows[index]?
  absent : ∀ index, rows[index]? = none → table.record? index = none
  record : ∀ (index : Nat) (row : Row), rows[index]? = some row → ∃ record, table.record? index = some record ∧
    record.map Prod.fst = table.columnNames ∧
    ∀ (column : Nat) (name : String), table.columnNames[column]? = some name →
      ∃ cell, row[column]? = some cell ∧ record.lookup name = some cell

private theorem row?_eq (table : Table) (index : Nat) : table.row? index = table.rows[index]? := by
  by_cases inside : index < table.rowCount <;> simp [row?, rows, inside]

private theorem lookup_zip {names : List String} {row : Row} {column : Nat} {name : String} {cell : Value} (distinct : names.Nodup)
    (named : names[column]? = some name) (found : row[column]? = some cell) : (names.zip row).lookup name = some cell := by
  induction names generalizing row column with
  | nil => cases named
  | cons first names ih =>
    obtain ⟨fresh, distinct⟩ := List.nodup_cons.mp distinct
    cases row with
    | nil => cases found
    | cons value row =>
      cases column with
      | zero =>
        cases named
        cases found
        simp
      | succ column =>
        have apart : (name == first) = false := by
          simpa using fun same : name = first => fresh (same ▸ List.mem_of_getElem? named)
        rw [List.zip_cons_cons, List.lookup_cons, apart]
        exact ih distinct named found

/-- In an aligned table no column ends before the rows do. -/
theorem held_rows {table : Table} (aligned : table.Aligned) {index : Nat} {row : Row} (found : table.rows[index]? = some row) :
    table.columns.map (fun column => column.values[index]?) = row.map some := by
  obtain ⟨long, rfl⟩ := List.getElem?_eq_some_iff.mp found
  have inside : index < table.rowCount := by simpa using long
  simp only [rows, List.getElem_map, List.getElem_range, rowAt, List.map_map]
  apply List.map_congr_left
  intro column member
  have size : index < column.values.size := by rwa [aligned column member]
  simp [size]

private theorem shows_rows {table : Table} (aligned : table.Aligned) (distinct : table.columnNames.Nodup) :
    table.Shows table.rows where
  count := table.length_rows.symm
  held _ _ found := held_rows aligned found
  all := rfl
  row := table.row?_eq
  absent index missing := by rw [record?, row?_eq, missing, Option.map_none]
  record index row found := by
    have long : row.length = table.columnNames.length := length_of_mem_rows (List.mem_of_getElem? found)
    refine ⟨table.columnNames.zip row, by rw [record?, row?_eq, found, Option.map_some], ?_, fun column name named => ?_⟩
    · exact List.map_fst_zip long.ge
    · have inside : column < row.length := long ▸ (List.getElem?_eq_some_iff.mp named).1
      exact ⟨row[column], List.getElem?_eq_getElem inside, lookup_zip distinct named (List.getElem?_eq_getElem inside)⟩

/-- The table stores these rows under these columns. -/
structure Stores (table : Table) (name : String) (columns : List ColumnDef) (rows : List Row) : Prop where
  aligned : table.Aligned
  named : table.name = name
  schema : table.schema = columns
  rows : table.rows = rows

private theorem dropPositions_eq_rowsAt (positions : List Nat) (start : Nat) (rows : List Row) :
    dropPositions positions start rows = rowsAt (fun index => start + index ∉ positions) rows := by
  induction rows generalizing start with
  | nil => rfl
  | cons row rows ih =>
    rw [rowsAt_cons, dropPositions, ih]
    by_cases listed : start ∈ positions <;> simp [listed, Nat.add_assoc, Nat.add_comm 1]

namespace Stores
variable {table : Table} {name : String} {columns : List ColumnDef} {rows : List Row}

private theorem width (stores : table.Stores name columns rows) : table.columns.length = columns.length := by
  rw [← table.length_schema, stores.schema]

private theorem shows (stores : table.Stores name columns rows) (distinct : (columns.map ColumnDef.name).Nodup) :
    table.Shows rows := by
  rw [← stores.schema, names_schema] at distinct
  exact stores.rows ▸ shows_rows stores.aligned distinct

private theorem append (stores : table.Stores name columns rows) {row : Row} (long : row.length = columns.length) :
    ∃ after, table.append row = .ok after ∧ after.Stores name columns (rows ++ [row]) := by
  have fits : row.length = table.columns.length := long.trans stores.width.symm
  obtain ⟨after, done⟩ : ∃ after, table.append row = .ok after := ⟨_, if_pos fits⟩
  refine ⟨after, done, append_aligned stores.aligned done, ?_, ?_, ?_⟩
  · exact (append_eq_ok done).2.1.trans stores.named
  · exact (append_schema done).trans stores.schema
  · rw [append_rows stores.aligned done, stores.rows]

private theorem append_fails (stores : table.Stores name columns rows) {row : Row} (other : row.length ≠ columns.length) :
    table.append row = .error (.valueCount columns.length row.length Keyword.INSERT.text) := by
  rw [← stores.width] at other ⊢
  exact if_neg other

private theorem setCell (stores : table.Stores name columns rows) {row column : Nat} {target : Column} (value : Value)
    (found : table.columns[column]? = some target) (inside : row < target.values.size) :
    ∃ after, table.setCell row column value = .ok after ∧
      after.Stores name columns (rows.modify row fun cells => cells.set column value) := by
  have insideRows : row < table.rowCount := stores.aligned target (List.mem_of_getElem? found) ▸ inside
  have insideColumns : column < table.columns.length := (List.getElem?_eq_some_iff.mp found).1
  have done := setCell_eq_ok value stores.aligned insideRows insideColumns
  obtain ⟨named, _, schema, aligned, changed⟩ := setCell_spec stores.aligned insideRows insideColumns done
  exact ⟨_, done, aligned, named.trans stores.named, schema.trans stores.schema, stores.rows ▸ changed⟩

private theorem deleteRows (stores : table.Stores name columns rows) {positions : List Nat} (ascending : positions.Pairwise (· < ·)) :
    (table.deleteRows positions).Stores name columns (rowsAt (fun index => index ∉ positions) rows) := by
  obtain ⟨aligned, kept⟩ := deleteRows_spec stores.aligned (ascending.imp Nat.ne_of_lt)
  refine ⟨aligned, stores.named, (table.schema_deleteRows positions).trans stores.schema, ?_⟩
  rw [kept, dropPositions_eq_rowsAt, stores.rows]
  simp only [Nat.zero_add]

/-- A proper operation does to the table what it does to the rows, or fails as it does there. -/
theorem perform (stores : table.Stores name columns rows) {operation : Operation} (proper : operation.Proper table) :
    match operation.onRows columns.length rows with
    | .ok others => ∃ after, operation.perform table = .ok after ∧ after.Stores name columns others
    | .error error => operation.perform table = .error error := by
  cases operation with
  | append row =>
    by_cases long : row.length = columns.length
    · rw [Operation.onRows, if_pos long]
      exact stores.append long
    · rw [Operation.onRows, if_neg long]
      exact stores.append_fails long
  | setCell row column value =>
    obtain ⟨target, found, inside⟩ := proper
    exact stores.setCell value found inside
  | deleteRows positions => exact ⟨_, rfl, stores.deleteRows proper⟩

private theorem step (stores : table.Stores name columns rows) {operation : Operation} (proper : operation.Proper table) :
    (table.step operation).Stores name columns (stepRows columns.length rows operation) := by
  have performed := stores.perform proper
  unfold Table.step stepRows
  split at performed
  next others listed =>
    obtain ⟨after, done, kept⟩ := performed
    rw [done, listed]
    exact kept
  next error listed =>
    rw [performed, listed]
    exact stores

/-- The induction is on the history, from its first operation on. -/
theorem after (stores : table.Stores name columns rows) {operations : List Operation} (proper : table.ProperHistory operations) :
    (table.after operations).Stores name columns (rowsAfter columns.length rows operations) := by
  induction operations generalizing table rows with
  | nil => exact stores
  | cons operation later ih =>
    obtain ⟨first, others⟩ := proper
    exact ih (stores.step first) others

end Stores

private theorem declare_stores {name : String} {columns : List ColumnDef} {table : Table} (declared : declare name columns = .ok table) :
    table.Stores name columns [] ∧ (columns.map ColumnDef.name).Nodup := by
  unfold declare at declared
  split at declared
  · cases declared
  next distinct =>
    cases declared
    refine ⟨⟨by simp [Aligned], rfl, ?_, rfl⟩, (nodup_of_firstRepeated distinct).1⟩
    simp [schema, Function.comp_def, Column.declaration]

/-- Whatever has been done to a table since it was declared, its columns are as long as it has rows, and it is read as one
list of rows, under the columns declared. The next operation does to the table what it does to that list: a row of the right length is put at the end and any other is
refused, one cell is replaced, the rows at the given positions are taken out. -/
theorem history_as_rows {name : String} {columns : List ColumnDef} {table : Table}
    (declared : declare name columns = .ok table) (operations : List Operation) (proper : table.ProperHistory operations) :
    let now := table.after operations
    let rows := rowsAfter columns.length [] operations
    now.Aligned ∧ now.Shows rows ∧ now.name = name ∧ now.schema = columns ∧ ∀ next : Operation, next.Proper now →
      match next.onRows columns.length rows with
      | .ok others => ∃ after, next.perform now = .ok after ∧ after.Aligned ∧ after.Shows others
      | .error error => next.perform now = .error error := by
  intro now rows
  obtain ⟨empty, distinct⟩ := declare_stores declared
  have stores : now.Stores name columns rows := empty.after proper
  refine ⟨stores.aligned, stores.shows distinct, stores.named, stores.schema, fun next own => ?_⟩
  have performed := stores.perform own
  split at performed
  next others _ =>
    obtain ⟨after, done, kept⟩ := performed
    exact ⟨after, done, kept.aligned, kept.shows distinct⟩
  next error _ => exact performed

/-- A row that is too short is refused, a cell is changed, and of the positions to delete one is behind the last row. -/
theorem history_of_two_columns :
    let columns : List ColumnDef := [⟨"A", .int⟩, ⟨"B", .text⟩]
    let table : Table := ⟨"T", [⟨"A", .int, #[]⟩, ⟨"B", .text, #[]⟩], 0⟩
    let operations : List Operation := [.append [.int 1, .text "X"], .append [.null], .append [.int 2, .null],
      .append [.int 3, .null], .setCell 2 1 (.text "Y"), .deleteRows [1, 7]]
    declare "T" columns = .ok table ∧ table.ProperHistory operations ∧ (table.after operations).Aligned ∧
      (table.after operations).rows = [[.int 1, .text "X"], [.int 3, .text "Y"]] ∧
      (table.after operations).row? 2 = none ∧
      (Operation.append []).perform (table.after operations) = .error (.valueCount 2 0 "INSERT") := by
  intro columns table operations
  have declared : declare "T" columns = .ok table := rfl
  have ascending : [1, 7].Pairwise (· < ·) := by decide
  have proper : table.ProperHistory operations :=
    ⟨trivial, trivial, trivial, trivial, ⟨_, rfl, by decide⟩, ascending, trivial⟩
  obtain ⟨aligned, shows, _, _, performs⟩ := history_as_rows declared operations proper
  exact ⟨declared, proper, aligned, shows.all, shows.row 2, performs (.append []) trivial⟩

end MiniSql.Table

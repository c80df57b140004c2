import MiniSql.Proofs.Composition

/-! What a catalog can hold that only texts have been executed on. A table's name is one word, an integer is not
negative, since a minus is no part of a number, and a text is what the lexer reads as one token. -/

namespace MiniSql
open Token

/-- A value that a token of some text stands for. -/
inductive Value.Written : Value → Prop where
  | null : Written .null
  | int {number : Int} (nonneg : 0 ≤ number) (bounded : number ≤ maxInteger) : Written (.int number)
  | text {inner : Token} {text : String} (scanned : inner ∈ scan text) : Written (.text inner.literal)

private theorem Token.Formed.written {token : Token} {value : Value} (formed : token.Formed)
    (read : Value.ofToken token = .ok value) : value.Written := by
  cases formed with
  | @number digits formed =>
    simp only [Value.ofToken] at read
    split at read
    next number decimal =>
      split at read
      next fits =>
        cases read
        have bounds : minInteger ≤ number ∧ number ≤ maxInteger := by simpa [fitsInteger] using fits
        refine .int ?_ bounds.2
        unfold Text.Decimal.int? at decimal
        split at decimal
        next others shape =>
          have minus := formed.2 '-' (by rw [shape]; exact List.mem_cons_self)
          cases minus
        next =>
          obtain ⟨size, _, rfl⟩ := Option.map_eq_some_iff.mp decimal
          exact Int.natCast_nonneg size
      next => cases read
    next => cases read
  | null =>
    cases read
    exact .null
  | @word inner text scanned =>
    cases read
    exact @Value.Written.text inner text scanned

namespace RowTable

structure Written (table : RowTable) : Prop where
  name : NewName table.name
  cells : ∀ row ∈ table.rows, ∀ value ∈ row, value.Written

variable {table after : RowTable}

private theorem valueOf_written {command : Keyword} {column : ColumnDef} {token : Token} {value : Value} (formed : token.Formed)
    (done : column.valueOf command token = .ok value) : value.Written := by
  obtain ⟨read, converted, done⟩ := Except.bind_eq_ok.mp done
  split at done
  next =>
    cases done
    exact formed.written converted
  next => cases done

private theorem insert_written {tokens : List Token} (written : table.Written) (formed : ∀ token ∈ tokens, token.Formed)
    (done : table.insert tokens = .ok after) : after.Written := by
  obtain ⟨row, checked, same⟩ := Except.bind_eq_ok.mp done
  cases same
  refine ⟨written.name, List.forall_mem_append.mpr ⟨written.cells, List.forall_mem_singleton.mpr fun value member => ?_⟩⟩
  unfold typedRow at checked
  split at checked
  · cases checked
  obtain ⟨entry, place, accepted⟩ := Except.mem_of_mapM checked member
  exact valueOf_written (formed _ (List.of_mem_zip place).2) accepted

private theorem update_written {assignments : List Assignment} {filter : Option Condition} {count : Nat} (written : table.Written)
    (formed : ∀ assignment ∈ assignments, assignment.value.Formed)
    (done : table.update assignments filter = .ok (after, count)) : after.Written := by
  obtain ⟨changes, resolved, done⟩ := Except.bind_eq_ok.mp done
  obtain ⟨marks, _, same⟩ := Except.bind_eq_ok.mp done
  cases same
  have fresh : ∀ change ∈ changes, change.value.Written := by
    intro change member
    obtain ⟨assignment, present, accepted⟩ := Except.mem_of_mapM resolved member
    obtain ⟨index, _, accepted⟩ := Except.bind_eq_ok.mp accepted
    split at accepted
    next column _ =>
      obtain ⟨value, typed, same⟩ := Except.bind_eq_ok.mp accepted
      cases same
      exact valueOf_written (formed assignment present) typed
    next => cases accepted
  refine ⟨written.name, fun row member value inside => ?_⟩
  obtain ⟨position, found⟩ := List.mem_iff_getElem?.mp member
  obtain ⟨old, marked, before, _, rfl⟩ := List.getElem?_zipWith_eq_some.mp found
  have kept := written.cells old (List.mem_of_getElem? before)
  split at inside
  · obtain ⟨index, bound, rfl⟩ := List.mem_mapIdx.mp inside
    split
    next change chosen => exact fresh change (List.mem_reverse.mp (List.mem_of_find?_eq_some chosen))
    next => exact kept _ (List.getElem_mem bound)
  · exact kept value inside

private theorem delete_written {condition : Condition} {count : Nat} (written : table.Written)
    (done : table.delete condition = .ok (after, count)) : after.Written := by
  obtain ⟨marks, _, same⟩ := Except.bind_eq_ok.mp done
  cases same
  refine ⟨written.name, fun row member => ?_⟩
  obtain ⟨entry, kept, rfl⟩ := List.mem_map.mp member
  exact written.cells entry.1 (List.of_mem_zip (List.mem_filter.mp kept).1).1

end RowTable

namespace Statement

/-- Names that are given and values are such as a text can spell. -/
def Formed : Statement → Prop
  | createTable name _ => NewName name
  | insert _ tokens => ∀ token ∈ tokens, token.Formed
  | update _ assignments _ => ∀ assignment ∈ assignments, assignment.value.Formed
  | dropTable _ => True
  | query _ => True
  | delete _ _ => True

private theorem attach_formed {statement extended : Statement} {clause : Clause} (formed : statement.Formed)
    (attached : statement.attach? clause = some extended) : extended.Formed := by
  unfold attach? at attached
  split at attached
  case h_5 =>
    cases attached
    exact formed
  case h_6 => cases attached
  all_goals
    split at attached <;> cases attached
    trivial

private theorem step_formed {progress after : Progress} {command : Command} (formed : ∀ statement ∈ progress.done, statement.Formed)
    (own : command.Formed) (done : progress.step command = .ok after) : ∀ statement ∈ after.done, statement.Formed := by
  obtain ⟨read, pending⟩ := progress
  have more {statement : Statement} (next : statement.Formed) : ∀ other ∈ statement :: read, other.Formed :=
    List.forall_mem_cons.mpr ⟨next, formed⟩
  cases pending with
  | some table =>
    cases command with
    | clause part =>
      cases part <;> cases done
      exact more trivial
    | createTable | dropTable | insert | select | update | delete => cases done
  | none =>
    cases command with
    | clause part =>
      cases read with
      | nil => cases done
      | cons last earlier =>
        obtain ⟨latest, others⟩ := List.forall_mem_cons.mp formed
        simp only [Progress.step, Progress.attach] at done
        split at done
        next =>
          split at done
          next extended attached =>
            cases done
            exact List.forall_mem_cons.mpr ⟨attach_formed latest attached, others⟩
          next => cases done
        next => cases done
    | createTable table columns =>
      cases done
      exact more own.1
    | insert table tokens =>
      cases done
      exact more own.2
    | update table assignments =>
      cases done
      exact more fun assignment member => (own.2.2 assignment member).value
    | dropTable | select =>
      cases done
      exact more trivial
    | delete table =>
      cases done
      exact formed

private theorem formed_of_ofCommands {commands : List Command} {statements : List Statement}
    (formed : ∀ command ∈ commands, command.Formed) (accepted : ofCommands commands = .ok statements) :
    ∀ statement ∈ statements, statement.Formed := by
  suffices steps : ∀ progress after : Progress, (∀ statement ∈ progress.done, statement.Formed) →
      commands.foldlM Progress.step progress = .ok after → ∀ statement ∈ after.done, statement.Formed by
    have all := steps .start _ (List.forall_mem_nil _) (ofCommands_eq_ok.mp accepted)
    exact fun statement member => all statement (List.mem_reverse.mpr member)
  clear accepted
  induction commands with
  | nil =>
    intro progress after known done
    cases done
    exact known
  | cons command commands ih =>
    obtain ⟨first, others⟩ := List.forall_mem_cons.mp formed
    intro progress after known done
    rw [List.foldlM_cons] at done
    obtain ⟨middle, step, rest⟩ := Except.bind_eq_ok.mp done
    exact ih others middle after (step_formed known first step) rest

end Statement

namespace RowDatabase

def Written (database : RowDatabase) : Prop := ∀ key table, database key = some table → table.Written

variable {database after : RowDatabase}

theorem empty_written : empty.Written := fun _ _ found => nomatch found

private theorem table_written {name : String} {table : RowTable} (written : database.Written) (found : database.table name = .ok table) :
    table.Written := by
  unfold RowDatabase.table at found
  split at found
  next present =>
    cases found
    exact written _ _ present
  next => cases found

private theorem set_written (written : database.Written) (name : String) {table : Option RowTable}
    (own : ∀ present ∈ table, present.Written) : (database.set name table).Written := by
  intro key other found
  unfold RowDatabase.set at found
  split at found
  · exact own other found
  · exact written key other found

private theorem set_some_written (written : database.Written) (name : String) {table : RowTable} (own : table.Written) :
    (database.set name (some table)).Written :=
  set_written written name fun other same => by cases same; exact own

private theorem apply_written {statement : Statement} {outcome : Outcome} (written : database.Written) (formed : statement.Formed)
    (done : database.apply statement = .ok (outcome, after)) : after.Written := by
  cases statement with
  | createTable name columns =>
    simp only [apply] at done
    split at done <;> cases done
    exact set_some_written written name ⟨formed, List.forall_mem_nil _⟩
  | dropTable name =>
    obtain ⟨table, _, same⟩ := Except.bind_eq_ok.mp done
    cases same
    refine set_written written name fun table absent => ?_
    cases absent
  | insert name tokens =>
    obtain ⟨table, found, done⟩ := Except.bind_eq_ok.mp done
    obtain ⟨changed, inserted, same⟩ := Except.bind_eq_ok.mp done
    cases same
    exact set_some_written written name (RowTable.insert_written (table_written written found) formed inserted)
  | query question =>
    obtain ⟨rows, _, same⟩ := Except.bind_eq_ok.mp done
    cases same
    exact written
  | update name assignments filter =>
    obtain ⟨table, found, done⟩ := Except.bind_eq_ok.mp done
    obtain ⟨⟨changed, count⟩, updated, same⟩ := Except.bind_eq_ok.mp done
    cases same
    exact set_some_written written name (RowTable.update_written (table_written written found) formed updated)
  | delete name condition =>
    obtain ⟨table, found, done⟩ := Except.bind_eq_ok.mp done
    obtain ⟨⟨changed, count⟩, deleted, same⟩ := Except.bind_eq_ok.mp done
    cases same
    exact set_some_written written name (RowTable.delete_written (table_written written found) deleted)

private theorem run_written {statements : List Statement} (written : database.Written)
    (formed : ∀ statement ∈ statements, statement.Formed) : (run statements database).2.Written := by
  induction statements generalizing database with
  | nil => exact written
  | cons statement statements ih =>
    obtain ⟨first, others⟩ := List.forall_mem_cons.mp formed
    unfold run
    split
    next applied => exact ih (apply_written written first applied) others
    next => exact written

end RowDatabase

namespace Engine

/-- The catalog behind texts that were executed on a new engine one after another, whatever became of each. -/
def executed (texts : List String) : Catalog := performAll (texts.map .execute) .empty

theorem executed_valid (texts : List String) : (executed texts).Valid := performAll_valid _ Catalog.empty_valid

private theorem execute_written (text : String) {catalog : Catalog} (valid : catalog.Valid) (written : catalog.contents.Written) :
    (execute text catalog).2.contents.Written := by
  unfold execute
  split
  next commands parsed =>
    obtain ⟨statements, accepted⟩ := Statement.ofCommands_of_parse parsed
    have formed := Statement.formed_of_ofCommands (Command.parse_wellFormed parsed).formed accepted
    have ran : (runStatements statements catalog).2.contents = _ :=
      congrArg Prod.snd (runStatements_contents statements valid)
    rw [evaluate_accepted accepted, ran]
    exact RowDatabase.run_written written formed
  next => exact written

/-- Whatever texts have been executed, names and values are such as a text can spell. -/
theorem executed_written (texts : List String) : (executed texts).contents.Written := by
  suffices runs : ∀ catalog : Catalog, catalog.Valid → catalog.contents.Written →
      (performAll (texts.map .execute) catalog).contents.Written from runs .empty Catalog.empty_valid RowDatabase.empty_written
  induction texts with
  | nil => exact fun _ _ written => written
  | cons text texts ih =>
    intro catalog valid written
    exact ih _ (perform_valid (.execute text) valid) (execute_written text valid written)

end Engine

theorem Catalog.table_written {catalog : Catalog} {key : String} {table : Table} (written : catalog.contents.Written)
    (found : catalog.find? key = some table) : table.contents.Written :=
  written key _ (by rw [Catalog.contents, found]; rfl)

end MiniSql

import MiniSql.Proofs.RowRefinement

/-! What one statement can do to a catalog. It fails and does nothing, or it changes the one table it
names; the other tables stay as they are. The cells need not be well-typed for this, only aligned. -/

namespace MiniSql

def Catalog.Aligned (catalog : Catalog) : Prop := ∀ entry ∈ catalog.entries, entry.2.Aligned

private theorem Catalog.Aligned.get {catalog : Catalog} {name : String} {table : Table} (aligned : catalog.Aligned)
    (found : catalog.get name = .ok table) : table.Aligned :=
  aligned _ (mem_entries_iff.mpr (get_eq_ok.mp found))

theorem Table.name_declare {name : String} {columns : List ColumnDef} {table : Table}
    (declared : declare name columns = .ok table) : table.name = name := by
  unfold declare at declared
  split at declared <;> cases declared
  rfl

namespace Statement

/-- The table a statement is about. A query is about no table in this sense, for it changes none. -/
def target? : Statement → Option String
  | createTable table _ => some table
  | dropTable table => some table
  | insert table _ => some table
  | update table _ _ => some table
  | delete table _ => some table
  | query _ => none

/-- The table whose rows a statement changes. -/
def edited? : Statement → Option String
  | insert table _ => some table
  | update table _ _ => some table
  | delete table _ => some table
  | _ => none

/-- What a statement that succeeds makes of a catalog. -/
inductive Effect (catalog : Catalog) : Statement → Catalog → Prop where
  | created (declared : Table.declare name columns = .ok table) (free : catalog.get? name = none) :
      Effect catalog (createTable name columns) (catalog.put (Catalog.key name) table)
  | dropped (found : catalog.get name = .ok table) :
      Effect catalog (dropTable name) (catalog.erase (Catalog.key name))
  | edited (edits : statement.edited? = some name) (found : catalog.get name = .ok table)
      (named : after.name = table.name) (schema : after.schema = table.schema) :
      Effect catalog statement (catalog.replace name after)
  | answered : Effect catalog (query question) catalog

/-- A run that fails leaves the catalog as it was; one that succeeds has an effect. -/
def Settles (catalog : Catalog) (statement : Statement) (ran : Except Error Outcome × Catalog) : Prop :=
  match ran with
  | (.ok _, after) => Effect catalog statement after
  | (.error _, after) => after = catalog

variable {catalog : Catalog}

theorem settles_edit {statement : Statement} {name : String} {change : Table → Except Error (Table × Nat)}
    {outcome : Table → Nat → Outcome} (edits : statement.edited? = some name)
    (keeps : ∀ table after count, catalog.get name = .ok table → change table = .ok (after, count) →
      after.name = table.name ∧ after.schema = table.schema) :
    Settles catalog statement (match catalog.get name >>= change with
      | .ok (after, count) => (.ok (outcome after count), catalog.replace name after)
      | .error error => (.error error, catalog)) := by
  cases changed : catalog.get name >>= change with
  | error error => rfl
  | ok result =>
    obtain ⟨table, found, done⟩ := Except.bind_eq_ok.mp changed
    obtain ⟨named, schema⟩ := keeps table result.1 result.2 found done
    exact .edited edits found named schema

theorem run_settles (aligned : catalog.Aligned) (statement : Statement) :
    Settles catalog statement (statement.run catalog) := by
  cases statement with
  | createTable name columns =>
    simp only [run, Plan.ofStatement]
    cases declared : Table.declare name columns with
    | error error => rfl
    | ok table =>
      change Settles catalog _ ((Plan.createTable table).run catalog)
      rw [Plan.run_createTable, Catalog.create, Table.name_declare declared]
      cases free : catalog.get? name with
      | some present => rfl
      | none => exact .created declared free
  | dropTable name =>
    change Settles catalog _ ((Plan.dropTable name).run catalog)
    rw [Plan.run_dropTable, Catalog.drop]
    cases found : catalog.get? name with
    | none => rfl
    | some table => exact .dropped (Catalog.get_eq_ok.mpr found)
  | insert name tokens =>
    change Settles catalog _ ((Plan.insert name tokens).run catalog)
    rw [Plan.run_insert]
    cases changed : catalog.get name >>= fun table => table.insert tokens with
    | error error => rfl
    | ok after =>
      obtain ⟨table, found, done⟩ := Except.bind_eq_ok.mp changed
      obtain ⟨named, schema⟩ := Table.insert_keeps done
      exact .edited rfl found named schema
  | query question =>
    rw [run_query]
    cases catalog.contents.answer question with
    | error error => rfl
    | ok rows => exact .answered
  | update name assignments filter =>
    change Settles catalog _ ((Plan.update name assignments filter).run catalog)
    rw [Plan.run_update name assignments filter fun table found => aligned.get found]
    refine settles_edit rfl fun table after count found done => ?_
    have shape := Table.update_shape (aligned.get found) done
    exact ⟨shape.name, shape.schema⟩
  | delete name condition =>
    change Settles catalog _ ((Plan.delete name condition).run catalog)
    rw [Plan.run_delete]
    exact settles_edit rfl fun table after count found done => Table.delete_keeps done

namespace Effect
variable {statement : Statement} {after : Catalog}

private theorem elsewhere (effect : Effect catalog statement after) {key : String}
    (other : ∀ name, statement.target? = some name → key ≠ Catalog.key name) : after.find? key = catalog.find? key := by
  cases effect with
  | created => rw [Catalog.find?_put, if_neg (other _ rfl)]
  | dropped => rw [Catalog.find?_erase, if_neg (other _ rfl)]
  | edited edits =>
    have aimed : ∀ name, statement.edited? = some name → statement.target? = some name := by
      cases statement <;> simp [edited?, target?]
    rw [Catalog.replace, Catalog.find?_put, if_neg (other _ (aimed _ edits))]
  | answered => rfl

private theorem declaration (effect : Effect catalog statement after) {name : String} (edits : statement.edited? = some name) :
    ∃ table changed, catalog.get name = .ok table ∧ after.get name = .ok changed ∧ changed.name = table.name ∧
      changed.schema = table.schema := by
  cases effect with
  | created | dropped | answered => cases edits
  | edited same found named schema =>
    obtain rfl := Option.some.inj (same.symm.trans edits)
    refine ⟨_, _, found, ?_, named, schema⟩
    rw [Catalog.get_eq_ok, Catalog.replace, Catalog.find?_put, if_pos rfl]

private theorem of_query {question : Query} (effect : Effect catalog (query question) after) : after = catalog := by
  cases effect with
  | edited edits => cases edits
  | answered => rfl

end Effect

end Statement

namespace Engine

private theorem execute_rejected {text : String} {error : Error} (catalog : Catalog)
    (rejected : Command.parse text >>= Statement.ofCommands = .error error) :
    execute text catalog = (⟨[], some error⟩, catalog) := by
  unfold execute
  cases parsed : Command.parse text with
  | error other =>
    rw [parsed] at rejected
    cases rejected
    rfl
  | ok commands =>
    rw [parsed] at rejected
    simp only [evaluate]
    rw [show Statement.ofCommands commands = .error error from rejected]
    rfl

/-- On aligned tables a statement that fails, at whatever stage, leaves the catalog exactly as it was. One that
succeeds changes no table but the one it names, keeps the declaration of the table whose rows it changes, and
changes nothing if it is a query. A text that cannot be read as statements does nothing on any catalog. -/
theorem all_or_nothing :
    (∀ catalog : Catalog, catalog.Aligned → ∀ statement : Statement,
      (∀ error, (statement.run catalog).1 = .error error → (statement.run catalog).2 = catalog) ∧
      ∀ outcome, (statement.run catalog).1 = .ok outcome →
        (∀ key, (∀ name, statement.target? = some name → key ≠ Catalog.key name) →
          (statement.run catalog).2.find? key = catalog.find? key) ∧
        (∀ name, statement.edited? = some name → ∃ table changed, catalog.get name = .ok table ∧
          (statement.run catalog).2.get name = .ok changed ∧ changed.name = table.name ∧ changed.schema = table.schema) ∧
        ∀ question, statement = .query question → (statement.run catalog).2 = catalog) ∧
    ∀ (catalog : Catalog) (text : String) (error : Error), Command.parse text >>= Statement.ofCommands = .error error →
      execute text catalog = (⟨[], some error⟩, catalog) := by
  refine ⟨fun catalog aligned statement => ?_, fun catalog text error => execute_rejected catalog⟩
  have settles := Statement.run_settles aligned statement
  generalize statement.run catalog = ran at settles
  rcases ran with ⟨failure | outcome, after⟩
  · refine ⟨fun _ _ => settles, ?_⟩
    intro outcome impossible
    cases impossible
  · have effect : Statement.Effect catalog statement after := settles
    refine ⟨?_, fun outcome _ => ⟨fun key => effect.elsewhere, fun name => effect.declaration, ?_⟩⟩
    · intro error impossible
      cases impossible
    · intro question same
      subst same
      exact effect.of_query

/-- The first row passes the condition before the second row makes it fail. -/
theorem update_stopped_in_second_row :
    let catalog := Catalog.empty.put "T" ⟨"T", [⟨"A", .int, #[.int 1, .int 2]⟩], 2⟩
    let filter : Condition := .or (.compare "A" .equal ⟨.literal, "1"⟩) (.compare "A" .equal ⟨.ident, "X"⟩)
    let statement := Statement.update "T" [⟨"A", ⟨.literal, "5"⟩⟩] (some filter)
    catalog.Aligned ∧ (statement.run catalog).1 = .error (.valueType "INT" "TEXT" "WHERE") ∧
      (statement.run catalog).2 = catalog := by
  intro catalog filter statement
  have aligned : catalog.Aligned := by
    intro entry member
    obtain rfl := List.mem_singleton.mp member
    simp [Table.Aligned]
  have failed : (statement.run catalog).1 = .error (.valueType "INT" "TEXT" "WHERE") := by decide +kernel
  exact ⟨aligned, failed, (all_or_nothing.1 catalog aligned statement).1 _ failed⟩

end Engine

end MiniSql

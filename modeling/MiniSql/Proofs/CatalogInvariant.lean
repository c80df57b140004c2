import MiniSql.Engine
import MiniSql.Proofs.PlanRuns
import MiniSql.Proofs.TableInvariant

/-! The invariant of catalogs: every table is valid and stored under its own name in upper case.
Nothing an engine is asked to do breaks it, whether the request succeeds or fails. -/

namespace MiniSql

namespace Catalog

theorem mem_entries_iff {catalog : Catalog} {key : String} {table : Table} :
    (key, table) ∈ catalog.entries ↔ catalog.find? key = some table := by
  obtain ⟨entries, ascending⟩ := catalog
  simp only [find?]
  induction entries with
  | nil => simp
  | cons head entries ih =>
    obtain ⟨above, rest⟩ := List.pairwise_cons.mp ascending
    obtain ⟨other, present⟩ := head
    rw [List.lookup_cons, List.mem_cons, ih rest]
    by_cases same : key = other
    · subst same
      have absent := lookup_eq_none_of_above above
      simp [absent, eq_comm]
    · have apart : (key == other) = false := by simpa using same
      simp [same, apart]

structure Valid (catalog : Catalog) : Prop where
  keyed : ∀ entry ∈ catalog.entries, entry.1 = Text.upper entry.2.name
  tables : ∀ entry ∈ catalog.entries, entry.2.Valid

theorem valid_iff {catalog : Catalog} :
    catalog.Valid ↔ ∀ query table, catalog.find? query = some table → query = key table.name ∧ table.Valid := by
  constructor
  · intro valid query table found
    have member := mem_entries_iff.mpr found
    exact ⟨valid.keyed _ member, valid.tables _ member⟩
  · intro each
    exact ⟨fun entry member => (each entry.1 entry.2 (mem_entries_iff.mp member)).1,
      fun entry member => (each entry.1 entry.2 (mem_entries_iff.mp member)).2⟩

theorem empty_valid : empty.Valid := by constructor <;> simp [empty]

theorem put_valid {catalog : Catalog} {table : Table} (valid : catalog.Valid) (sound : table.Valid) {query : String}
    (same : query = key table.name) : (catalog.put query table).Valid := by
  rw [valid_iff] at valid ⊢
  intro other present found
  rw [find?_put] at found
  split at found
  next here => cases found; exact ⟨here.trans same, sound⟩
  next => exact valid other present found

private theorem erase_valid {catalog : Catalog} (valid : catalog.Valid) (query : String) : (catalog.erase query).Valid := by
  rw [valid_iff] at valid ⊢
  intro other present found
  rw [find?_erase] at found
  split at found
  · cases found
  · exact valid other present found

theorem get_valid {catalog : Catalog} {name : String} {table : Table} (valid : catalog.Valid)
    (found : catalog.get name = .ok table) : key name = key table.name ∧ table.Valid :=
  valid_iff.mp valid _ _ (get_eq_ok.mp found)

private theorem replace_valid {catalog : Catalog} {name : String} {table after : Table} (valid : catalog.Valid)
    (found : catalog.get name = .ok table) (same : after.name = table.name) (sound : after.Valid) :
    (catalog.replace name after).Valid :=
  put_valid valid sound (same ▸ (get_valid valid found).1)

private theorem create_valid {catalog after : Catalog} {table : Table} (valid : catalog.Valid) (sound : table.Valid)
    (done : catalog.create table = .ok after) : after.Valid := by
  unfold create at done
  split at done
  · cases done
  · cases done
    exact put_valid valid sound rfl

private theorem drop_valid {catalog after : Catalog} {name : String} {table : Table} (valid : catalog.Valid)
    (done : catalog.drop name = .ok (table, after)) : after.Valid := by
  unfold drop at done
  split at done
  · cases done
    exact erase_valid valid _
  · cases done

end Catalog

namespace Plan
open Execution

/-- The tables a plan creates, at whatever depth, have a property. -/
def Creates (property : Table → Prop) : Plan → Prop
  | createTable table => property table
  | join _ left _ right _ _ => left.Creates property ∧ right.Creates property
  | filter source _ _ => source.Creates property
  | sort source _ _ => source.Creates property
  | project source _ _ => source.Creates property
  | aggregate source _ _ => source.Creates property
  | offset source _ => source.Creates property
  | limit source _ => source.Creates property
  | distinct source => source.Creates property
  | dropTable _ => True
  | insert _ _ => True
  | scan _ => True
  | update _ _ _ => True
  | delete _ _ => True

/-- Every operation leaves a valid catalog, also when it fails. -/
theorem execute_valid (plan : Plan) (creates : plan.Creates Table.Valid) : Preserves Catalog.Valid plan.execute := by
  induction plan with
  | createTable table =>
    intro catalog valid
    change ((createTable table).run catalog).2.Valid
    rw [run_createTable]
    split
    next after done => exact Catalog.create_valid valid creates done
    next => exact valid
  | dropTable name =>
    intro catalog valid
    change ((dropTable name).run catalog).2.Valid
    rw [run_dropTable]
    split
    next done => exact Catalog.drop_valid valid done
    next => exact valid
  | insert name values =>
    intro catalog valid
    change ((insert name values).run catalog).2.Valid
    rw [run_insert]
    split
    next done =>
      obtain ⟨table, found, changed⟩ := Except.bind_eq_ok.mp done
      exact Catalog.replace_valid valid found (Table.insert_keeps changed).1
        (Table.insert_valid (Catalog.get_valid valid found).2 changed)
    next => exact valid
  | update name assignments condition =>
    intro catalog valid
    change ((update name assignments condition).run catalog).2.Valid
    rw [run_update name assignments condition fun table found => (Catalog.get_valid valid found).2.aligned]
    split
    next done =>
      obtain ⟨table, found, changed⟩ := Except.bind_eq_ok.mp done
      have sound := (Catalog.get_valid valid found).2
      exact Catalog.replace_valid valid found (Table.update_shape sound.aligned changed).name
        (Table.update_valid sound changed)
    next => exact valid
  | delete name condition =>
    intro catalog valid
    change ((delete name condition).run catalog).2.Valid
    rw [run_delete]
    split
    next done =>
      obtain ⟨table, found, changed⟩ := Except.bind_eq_ok.mp done
      exact Catalog.replace_valid valid found (Table.delete_keeps changed).1
        (Table.delete_valid (Catalog.get_valid valid found).2 changed)
    next => exact valid
  | scan name => exact Preserves.bind (fun _ valid => valid) fun catalog => Preserves.bind (.lift _) fun table => .pure _
  | join kind left leftTable right rightTable on ihLeft ihRight =>
    refine Preserves.bind (ihLeft creates.1) fun leftOutcome => ?_
    refine Preserves.bind (.lift _) fun leftRows => ?_
    refine Preserves.bind (ihRight creates.2) fun rightOutcome => ?_
    refine Preserves.bind (.lift _) fun rightRows => ?_
    exact Preserves.bind (.lift _) fun rows => .pure _
  | filter source table condition ih => exact (ih creates).onRows _
  | sort source table keys ih => exact (ih creates).onRows _
  | project source table columns ih => exact (ih creates).onRows _
  | aggregate source table terms ih => exact (ih creates).onRows _
  | offset source count ih => exact (ih creates).onRows fun rows => .ok (rows.offset count)
  | limit source count ih => exact (ih creates).onRows fun rows => .ok (rows.limit count)
  | distinct source ih => exact (ih creates).onRows fun rows => .ok rows.distinct

private theorem ofProjection_creates {property : Table → Prop} {source plan : Plan} {table : String} {projection : Projection}
    (kept : source.Creates property) (done : ofProjection source table projection = .ok plan) : plan.Creates property := by
  cases projection with
  | all => cases done; exact kept
  | items items =>
    simp only [ofProjection] at done
    split at done <;> cases done <;> exact kept

private theorem ofQuery_creates {property : Table → Prop} {query : Query} {plan : Plan} (done : ofQuery query = .ok plan) :
    plan.Creates property := by
  obtain ⟨projected, chosen, same⟩ := Except.bind_eq_ok.mp done
  have source : (ofSource query.select).Creates property := by
    unfold ofSource
    split
    · trivial
    · exact ⟨trivial, trivial⟩
  have projection : projected.Creates property := by
    refine ofProjection_creates ?_ chosen
    split <;> split <;> exact source
  cases same
  split <;> split <;> split <;> exact projection

theorem ofStatement_creates {statement : Statement} {plan : Plan} (done : ofStatement statement = .ok plan) :
    plan.Creates Table.Valid := by
  cases statement with
  | createTable name columns =>
    obtain ⟨table, declared, same⟩ := Except.bind_eq_ok.mp done
    cases same
    exact Table.declare_valid declared
  | query query => exact ofQuery_creates done
  | dropTable | insert | update | delete => cases done; trivial

end Plan

theorem Statement.run_valid (statement : Statement) {catalog : Catalog} (valid : catalog.Valid) :
    (statement.run catalog).2.Valid := by
  unfold run
  split
  next plan planned => exact plan.execute_valid (Plan.ofStatement_creates planned) catalog valid
  next => exact valid

namespace Engine

theorem runStatements_valid (statements : List Statement) {catalog : Catalog} (valid : catalog.Valid) :
    (runStatements statements catalog).2.Valid := by
  induction statements generalizing catalog with
  | nil => exact valid
  | cons statement statements ih =>
    have step := statement.run_valid valid
    unfold runStatements
    split
    next outcome after ran =>
      rw [ran] at step
      exact ih step
    next error after ran =>
      rw [ran] at step
      exact step

private theorem evaluate_valid (commands : List Command) {catalog : Catalog} (valid : catalog.Valid) :
    (evaluate commands catalog).2.Valid := by
  unfold evaluate
  split
  · exact runStatements_valid _ valid
  · exact valid

/-- What an engine may be asked: to read a text, or to evaluate commands put together in any way. -/
inductive Request where
  | execute (text : String)
  | evaluate (commands : List Command)

def Request.perform : Request → Catalog → Evaluation × Catalog
  | .execute text => Engine.execute text
  | .evaluate commands => Engine.evaluate commands

/-- The catalog behind a run of requests, each of which may have failed anywhere. -/
def performAll (requests : List Request) (catalog : Catalog) : Catalog :=
  requests.foldl (fun catalog request => (request.perform catalog).2) catalog

theorem perform_valid (request : Request) {catalog : Catalog} (valid : catalog.Valid) :
    (request.perform catalog).2.Valid := by
  cases request with
  | evaluate commands => exact evaluate_valid commands valid
  | execute text =>
    simp only [Request.perform, execute]
    split
    · exact evaluate_valid _ valid
    · exact valid

theorem performAll_valid (requests : List Request) {catalog : Catalog} (valid : catalog.Valid) :
    (performAll requests catalog).Valid := by
  induction requests generalizing catalog with
  | nil => exact valid
  | cons request requests ih => exact ih (perform_valid request valid)

/-- Whatever has been asked of a new engine, each table of its catalog is stored under its own name, has
distinct column names and aligned columns, and holds in each cell NULL or a value of the column's type. -/
theorem reachable_valid (requests : List Request) : (performAll requests .empty).Valid :=
  performAll_valid requests Catalog.empty_valid

end Engine

end MiniSql

import MiniSql.Proofs.TableContents

/-! Edits are all or nothing. They write cell by cell into the table they work on, but the first write
comes when nothing can fail any more. -/

namespace MiniSql.Edit
open Stateful

/-- On this table the edit makes a change, or it fails with the change and leaves the table as it was. -/
def Does (edit : Edit α) (table : Table) (change : Except Error (Table × α)) : Prop :=
  edit table = match change with
    | .ok (after, result) => (.ok result, after)
    | .error error => (.error error, table)

theorem insert_does (tokens : List Token) (table : Table) :
    (insert tokens).Does table ((fun after => (after, ())) <$> table.insert tokens) := by
  simp only [Does, insert, Table.insert, bind_run, get_run]
  split
  · rfl
  simp only [bind_run, lift_run]
  cases Table.typedRow table.columns tokens with
  | error error => rfl
  | ok row =>
    simp only [bind, Except.bind]
    cases table.append row <;> rfl

theorem delete_does (condition : Condition) (table : Table) : (delete condition).Does table (table.delete condition) := by
  simp only [Does, delete, Table.delete, bind_run, get_run, lift_run]
  cases table.matching (some condition) <;> rfl

private theorem changeRow_run {changes : List Table.CellChange} {row : Nat} {table after : Table}
    (done : Table.changeRow changes table row = .ok after) : changeRow changes row table = (.ok (), after) := by
  refine forM_run (fun change table after written => ?_) done
  simp only [bind_run, get_run, lift_run, written]
  rfl

private theorem changeRows_run {changes : List Table.CellChange} {rows : List Nat} {table after : Table}
    (done : rows.foldlM (Table.changeRow changes) table = .ok after) :
    rows.forM (changeRow changes) table = (.ok (), after) :=
  forM_run (fun _ _ _ => changeRow_run) done

/-- The cells to write are known before the first is written, and on an aligned table each of them exists. -/
theorem update_does {table : Table} (aligned : table.Aligned) (assignments : List Assignment) (filter : Option Condition) :
    (update assignments filter).Does table (table.update assignments filter) := by
  simp only [Does, update, Table.update, bind_run, get_run, lift_run, Table.cellChanges_eq, Table.matching_eq]
  cases resolved : assignments.mapM table.contents.cellChange with
  | error error => rfl
  | ok changes =>
    cases found : table.contents.marks filter with
    | error error => rfl
    | ok marks =>
      obtain ⟨after, written, _⟩ := Table.changeRows_resolved aligned resolved found
      simp only [Functor.map, Except.map, changeRows_run written]
      simp only [bind, Except.bind] at written ⊢
      rw [written]
      rfl

end MiniSql.Edit

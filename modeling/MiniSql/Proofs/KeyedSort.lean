import MiniSql.Proofs.TypedRelation

/-! ORDER BY by several keys. Rows whose key columns hold values of one type can always be sorted, and there is one result:
the stable sort by the first key that tells two rows apart. To sort by a list of keys is to sort by its tail and then,
stably, by its head. -/

namespace MiniSql

private theorem rowOrder_singleton (columns : List String) (key : SortKey) : rowOrder columns [key] = key.order columns := by
  funext left right
  simp only [rowOrder, compareLex, Ordering.then_eq]

/-- NULL stands in front of values where the key ascends, and behind them where it descends. -/
def SortKey.PlacesNull (columns : List String) (key : SortKey) (first second : Row) : Prop :=
  match key.direction with
  | .ascending => second.value columns key.column = .null → first.value columns key.column = .null
  | .descending => first.value columns key.column = .null → second.value columns key.column = .null

private theorem SortKey.placesNull_of_isLE {columns : List String} {key : SortKey} {first second : Row}
    (least : (key.order columns first second).isLE) : key.PlacesNull columns first second := by
  unfold PlacesNull
  unfold order at least
  generalize key.direction = direction at *
  generalize first.value columns key.column = one at *
  generalize second.value columns key.column = other at *
  cases direction <;> cases one <;> cases other <;> simp_all [Direction.apply, Value.order]

namespace Relation

/-- Each row has one value for each column, the keys name columns, and what a key column holds besides NULL is of one type. -/
structure Sortable (relation : Relation) (keys : List SortKey) : Prop where
  lengths : ∀ row ∈ relation.rows, row.length = relation.columns.length
  known : ∀ key ∈ keys, key.column ∈ relation.columns
  typed : ∀ key ∈ keys, ∃ datatype, ∀ row ∈ relation.rows, (row.value relation.columns key.column).fits datatype

variable {relation : Relation} {keys others : List SortKey}

namespace Sortable

private theorem of_perm {rows : List Row} (sortable : relation.Sortable keys) (perm : rows.Perm relation.rows) (fewer : others ⊆ keys) :
    Sortable { relation with rows } others := by
  refine ⟨fun row member => ?_, fun key member => ?_, fun key member => ?_⟩
  · exact sortable.lengths row (perm.mem_iff.mp member)
  · exact sortable.known key (fewer member)
  · obtain ⟨datatype, fits⟩ := sortable.typed key (fewer member)
    exact ⟨datatype, fun row inside => fits row (perm.mem_iff.mp inside)⟩

private theorem compares (sortable : relation.Sortable keys) {key : SortKey} (member : key ∈ keys) {first second : Row}
    (inside : first ∈ relation.rows) (insideSecond : second ∈ relation.rows) :
    (first.value relation.columns key.column).compare? (second.value relation.columns key.column) =
      some ((first.value relation.columns key.column).order (second.value relation.columns key.column)) := by
  obtain ⟨datatype, fits⟩ := sortable.typed key member
  obtain ⟨order, compared⟩ := Value.compare?_of_fits (fits first inside) (fits second insideSecond)
  rw [compared, Value.order_of_compare compared]

private theorem sorts (sortable : relation.Sortable keys) (table : String) :
    ∃ rows, relation.sort table keys = .ok { relation with rows } ∧
      StableSort (rowOrder relation.columns keys) relation.rows rows := by
  have comparable : ∀ first ∈ relation.rows, ∀ second ∈ relation.rows, Comparable relation.columns keys first second := by
    intro first inside second insideSecond key member
    have named := sortable.known key member
    exact ⟨_, _, _, Row.cell_of_mem (sortable.lengths first inside) named,
      Row.cell_of_mem (sortable.lengths second insideSecond) named, sortable.compares member inside insideSecond⟩
  obtain ⟨⟨columns, rows⟩, done, _⟩ := sort_returns table sortable.known comparable
  obtain ⟨rfl, stable⟩ := sort_eq_ok done
  exact ⟨rows, done, stable⟩

/-- Sorting by a key after its successors sorts by all of them. -/
theorem sort_cons {key : SortKey} (sortable : relation.Sortable (key :: keys)) (table : String) :
    relation.sort table (key :: keys) = relation.sort table keys >>= fun once => once.sort table [key] := by
  obtain ⟨rows, done, stable⟩ := sortable.sorts table
  obtain ⟨once, doneOnce, first⟩ := (sortable.of_perm (.refl _) (List.subset_cons_self key keys)).sorts table
  have byKey := sortable.of_perm first.perm (List.cons_subset_cons key (List.nil_subset keys))
  obtain ⟨twice, doneTwice, second⟩ := byKey.sorts table
  rw [rowOrder_singleton] at second
  obtain rfl : twice = rows := (first.lexicographic second).unique stable
  rw [done, doneOnce]
  exact doneTwice.symm

end Sortable

/-- Rows whose key columns hold values of one type can be sorted. The result is their only stable arrangement in the order
of the keys; that order compares values as they are compared everywhere, with NULL in front of them where the key ascends
and behind them where it descends. It comes about as well by sorting by all keys but the first, and then by the first. -/
theorem sort_by_keys (table : String) (sortable : relation.Sortable keys) :
    ∃ rows, relation.sort table keys = .ok { relation with rows } ∧
      StableSort (rowOrder relation.columns keys) relation.rows rows ∧
      (∀ other, StableSort (rowOrder relation.columns keys) relation.rows other → other = rows) ∧
      (∀ key ∈ keys, ∀ first ∈ relation.rows, ∀ second ∈ relation.rows,
        (first.value relation.columns key.column).compare? (second.value relation.columns key.column) =
          some ((first.value relation.columns key.column).order (second.value relation.columns key.column))) ∧
      ∀ key others, keys = key :: others → rows.Pairwise (key.PlacesNull relation.columns) ∧
        relation.sort table keys = relation.sort table others >>= fun once => once.sort table [key] := by
  obtain ⟨rows, done, stable⟩ := sortable.sorts table
  refine ⟨rows, done, stable, fun other same => same.unique stable, ?_, ?_⟩
  · exact fun key member first inside second insideSecond => sortable.compares member inside insideSecond
  · rintro key others rfl
    refine ⟨stable.ascending.imp fun {first second} least => ?_, sortable.sort_cons table⟩
    exact SortKey.placesNull_of_isLE (Ordering.isLE_left_of_isLE_then least)

/-- The first key descends, with NULL behind the numbers; the second ascends, with NULL in front of the letter. -/
theorem sort_by_two_keys :
    let relation : Relation := ⟨["A", "B"], [[.int 1, .text "Y"], [.null, .text "X"], [.int 2, .text "X"], [.int 1, .null]]⟩
    let keys : List SortKey := [⟨"A", .descending⟩, ⟨"B", .ascending⟩]
    let rows : List Row := [[.int 2, .text "X"], [.int 1, .null], [.int 1, .text "Y"], [.null, .text "X"]]
    relation.Sortable keys ∧ relation.sort "T" keys = .ok { relation with rows } ∧
      StableSort (rowOrder relation.columns keys) relation.rows rows ∧
      rows.Pairwise (SortKey.PlacesNull relation.columns ⟨"A", .descending⟩) := by
  intro relation keys rows
  have sortable : relation.Sortable keys := by
    refine ⟨by decide, by decide, List.forall_mem_cons.mpr ⟨⟨.int, by decide⟩, List.forall_mem_singleton.mpr ⟨.text, by decide⟩⟩⟩
  have sorted : relation.sort "T" keys = .ok { relation with rows } := by decide
  obtain ⟨own, done, stable, _, _, heads⟩ := sort_by_keys "T" sortable
  obtain rfl : own = rows := congrArg Relation.rows (Except.ok.inj (done.symm.trans sorted))
  exact ⟨sortable, sorted, stable, (heads _ _ rfl).1⟩

end Relation

end MiniSql

import MiniSql.Proofs.TableContents

/-! The invariant of tables: column names are distinct, columns are aligned and cells have the type of
their column. The types are checked on the list of rows, which is where a statement works. -/

namespace MiniSql

namespace RowTable

/-- Every cell fits its column. -/
def Typed (table : RowTable) : Prop :=
  ∀ row ∈ table.rows, ∀ (index : Nat) (value : Value) (column : ColumnDef),
    row[index]? = some value → table.columns[index]? = some column → value.fits column.datatype

private theorem valueOf_fits {command : Keyword} {column : ColumnDef} {token : Token} {value : Value}
    (done : column.valueOf command token = .ok value) : value.fits column.datatype := by
  obtain ⟨value, _, done⟩ := Except.bind_eq_ok.mp done
  split at done
  next fits => cases done; exact fits
  next => cases done

private theorem insert_typed {table after : RowTable} {tokens : List Token} (typed : table.Typed)
    (done : table.insert tokens = .ok after) : after.Typed := by
  obtain ⟨row, checked, same⟩ := Except.bind_eq_ok.mp done
  cases same
  intro other member index value column cell declared
  rcases List.mem_append.mp member with old | new
  · exact typed other old index value column cell declared
  obtain rfl := List.mem_singleton.mp new
  unfold typedRow at checked
  split at checked
  · cases checked
  obtain ⟨entry, place, accepted⟩ := Except.getElem?_of_mapM checked cell
  obtain ⟨present, _⟩ := List.getElem?_zip_eq_some.mp place
  cases present.symm.trans declared
  exact valueOf_fits accepted

private theorem update_typed {table after : RowTable} {assignments : List Assignment} {filter : Option Condition} {count : Nat}
    (typed : table.Typed) (done : table.update assignments filter = .ok (after, count)) : after.Typed := by
  obtain ⟨changes, resolved, done⟩ := Except.bind_eq_ok.mp done
  obtain ⟨marks, _, same⟩ := Except.bind_eq_ok.mp done
  cases same
  intro row member index value column cell declared
  obtain ⟨position, found⟩ := List.mem_iff_getElem?.mp member
  obtain ⟨old, marked, before, _, rfl⟩ := List.getElem?_zipWith_eq_some.mp found
  have kept := typed old (List.mem_of_getElem? before) index
  split at cell
  · simp only [overwrite, List.getElem?_mapIdx, Option.map_eq_some_iff] at cell
    obtain ⟨present, inside, rfl⟩ := cell
    split
    next change chosen =>
      obtain ⟨assignment, _, accepted⟩ := Except.mem_of_mapM resolved (List.mem_reverse.mp (List.mem_of_find?_eq_some chosen))
      obtain ⟨target, place, fits⟩ := Table.cellChange_column accepted
      have here : change.column = index := by simpa using List.find?_some chosen
      rw [here] at place
      cases place.symm.trans declared
      exact fits
    next => exact kept present column inside declared
  · exact kept value column cell declared

private theorem delete_typed {table after : RowTable} {condition : Condition} {count : Nat}
    (typed : table.Typed) (done : table.delete condition = .ok (after, count)) : after.Typed := by
  obtain ⟨marks, _, same⟩ := Except.bind_eq_ok.mp done
  cases same
  intro row member
  obtain ⟨entry, kept, rfl⟩ := List.mem_map.mp member
  exact typed entry.1 (List.of_mem_zip (List.mem_filter.mp kept).1).1

end RowTable

namespace Table

structure Valid (table : Table) : Prop where
  distinct : table.columnNames.Nodup
  aligned : ∀ column ∈ table.columns, column.values.size = table.rowCount
  typed : ∀ column ∈ table.columns, ∀ value ∈ column.values, value = .null ∨ value.datatype? = some column.datatype

theorem fits_iff {value : Value} {datatype : Datatype} :
    value.fits datatype ↔ value = .null ∨ value.datatype? = some datatype := by
  cases value <;> simp [Value.fits, Value.datatype?]

/-- On aligned columns the types of the cells can be checked by row or by column. -/
theorem typed_contents_iff {table : Table} (aligned : table.Aligned) :
    table.contents.Typed ↔
      ∀ column ∈ table.columns, ∀ value ∈ column.values, value = .null ∨ value.datatype? = some column.datatype := by
  constructor
  · intro typed column member value inside
    obtain ⟨index, found⟩ := List.mem_iff_getElem?.mp member
    obtain ⟨position, present, same⟩ := Array.mem_iff_getElem.mp inside
    have insideRows : position < table.rowCount := aligned column member ▸ present
    refine fits_iff.mp (typed (table.rowAt position) ?_ index value column.declaration ?_ ?_)
    · exact List.mem_map_of_mem (List.mem_range.mpr insideRows)
    · simp [rowAt, found, Array.getD_eq_getD_getElem?, present, same]
    · simp [schema, found]
  · intro typed row member index value column cell declared
    obtain ⟨position, insideRows, rfl⟩ := List.mem_map.mp member
    simp only [columns_contents, schema, List.getElem?_map, Option.map_eq_some_iff] at declared
    obtain ⟨target, found, rfl⟩ := declared
    simp only [rowAt, List.getElem?_map, found, Option.map_some, Option.some.injEq] at cell
    have present : position < target.values.size := by
      rw [aligned target (List.mem_of_getElem? found)]
      exact List.mem_range.mp insideRows
    refine fits_iff.mpr (typed target (List.mem_of_getElem? found) value ?_)
    rw [← cell, Array.getD_eq_getD_getElem?, Array.getElem?_eq_getElem present]
    exact Array.getElem_mem present

theorem Valid.contents_typed {table : Table} (valid : table.Valid) : table.contents.Typed :=
  (typed_contents_iff valid.aligned).mpr valid.typed

theorem Valid.of_contents {table after : Table} (valid : table.Valid) (schema : after.schema = table.schema)
    (aligned : after.Aligned) (typed : after.contents.Typed) : after.Valid := by
  refine ⟨?_, aligned, (typed_contents_iff aligned).mp typed⟩
  rw [← names_schema, schema, names_schema]
  exact valid.distinct

theorem nodup_of_firstRepeated {earlier names : List String} (none : firstRepeated earlier names = none) :
    names.Nodup ∧ ∀ name ∈ names, name ∉ earlier := by
  induction names generalizing earlier with
  | nil => simp
  | cons name names ih =>
    unfold firstRepeated at none
    split at none
    · cases none
    next absent =>
      obtain ⟨distinct, apart⟩ := ih none
      refine ⟨List.nodup_cons.mpr ⟨fun member => apart name member (by simp), distinct⟩, ?_⟩
      intro other member
      rcases List.mem_cons.mp member with rfl | member
      · exact absent
      · exact fun inside => apart other member (by simp [inside])

theorem firstRepeated_of_nodup {earlier names : List String} (distinct : names.Nodup)
    (apart : ∀ name ∈ names, name ∉ earlier) : firstRepeated earlier names = none := by
  induction names generalizing earlier with
  | nil => rfl
  | cons name names ih =>
    obtain ⟨absent, rest⟩ := List.nodup_cons.mp distinct
    rw [firstRepeated, if_neg (apart name (by simp))]
    refine ih rest fun other member inside => ?_
    rcases List.mem_cons.mp inside with rfl | inside
    · exact absent member
    · exact apart other (by simp [member]) inside

theorem declare_valid {name : String} {columns : List ColumnDef} {table : Table} (done : declare name columns = .ok table) :
    table.Valid := by
  unfold declare at done
  split at done
  · cases done
  next distinct =>
    cases done
    refine ⟨?_, by simp, by simp⟩
    simpa [columnNames, Function.comp_def] using (nodup_of_firstRepeated distinct).1

theorem insert_valid {table after : Table} {tokens : List Token} (valid : table.Valid)
    (done : table.insert tokens = .ok after) : after.Valid := by
  have stored := contents_insert valid.aligned tokens
  rw [done] at stored
  exact valid.of_contents (insert_keeps done).2 (insert_aligned valid.aligned done)
    (RowTable.insert_typed valid.contents_typed stored.symm)

theorem update_valid {table after : Table} {assignments : List Assignment} {filter : Option Condition} {count : Nat}
    (valid : table.Valid) (done : table.update assignments filter = .ok (after, count)) : after.Valid := by
  have stored := contents_update valid.aligned assignments filter
  rw [done] at stored
  have shape := update_shape valid.aligned done
  exact valid.of_contents shape.schema shape.aligned (RowTable.update_typed valid.contents_typed stored.symm)

theorem delete_valid {table after : Table} {condition : Condition} {count : Nat}
    (valid : table.Valid) (done : table.delete condition = .ok (after, count)) : after.Valid := by
  have stored := contents_delete valid.aligned condition
  rw [done] at stored
  exact valid.of_contents (delete_keeps done).2 (delete_aligned valid.aligned done)
    (RowTable.delete_typed valid.contents_typed stored.symm)

end Table

end MiniSql

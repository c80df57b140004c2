import MiniSql.Table
import MiniSql.Text.Upper

/-! The catalog: tables by name, where names that agree in upper case are the same name. A table
keeps its name as it was spelled. Entries are ascending by key, so a catalog has one form. -/

namespace MiniSql

structure Catalog where
  entries : List (String × Table)
  ascending : entries.Pairwise fun first second => first.1 < second.1
  deriving DecidableEq

namespace Catalog

def key (name : String) : String := Text.upper name

def empty : Catalog := ⟨[], .nil⟩

def keys (catalog : Catalog) : List String := catalog.entries.map Prod.fst

def find? (catalog : Catalog) (key : String) : Option Table := catalog.entries.lookup key

def insertEntry (key : String) (table : Table) : List (String × Table) → List (String × Table)
  | [] => [(key, table)]
  | (other, present) :: entries =>
    if key < other then (key, table) :: (other, present) :: entries
    else if key = other then (key, table) :: entries
    else (other, present) :: insertEntry key table entries

theorem fst_of_mem_insertEntry {key : String} {table : Table} {entry : String × Table}
    {entries : List (String × Table)} (member : entry ∈ insertEntry key table entries) :
    entry.1 = key ∨ entry ∈ entries := by
  induction entries with
  | nil => simp_all [insertEntry]
  | cons head entries ih =>
    unfold insertEntry at member
    grind

theorem ascending_insertEntry (key : String) (table : Table) {entries : List (String × Table)}
    (ascending : entries.Pairwise fun first second => first.1 < second.1) :
    (insertEntry key table entries).Pairwise fun first second => first.1 < second.1 := by
  induction entries with
  | nil => simp [insertEntry]
  | cons head entries ih =>
    obtain ⟨above, rest⟩ := List.pairwise_cons.mp ascending
    unfold insertEntry
    split
    next below =>
      refine List.pairwise_cons.mpr ⟨fun entry member => ?_, ascending⟩
      rcases List.mem_cons.mp member with rfl | member
      · exact below
      · exact String.lt_trans below (above entry member)
    split
    next same => exact List.pairwise_cons.mpr ⟨fun entry member => same ▸ above entry member, rest⟩
    next notBelow different =>
      refine List.pairwise_cons.mpr ⟨fun entry member => ?_, ih rest⟩
      rcases fst_of_mem_insertEntry member with same | member
      · refine same ▸ Decidable.byContradiction fun notAbove => different ?_
        exact String.le_antisymm (String.not_lt.mp notAbove) (String.not_lt.mp notBelow)
      · exact above entry member

def put (catalog : Catalog) (key : String) (table : Table) : Catalog :=
  ⟨insertEntry key table catalog.entries, ascending_insertEntry key table catalog.ascending⟩

def erase (catalog : Catalog) (key : String) : Catalog :=
  ⟨catalog.entries.filter fun entry => entry.1 != key, catalog.ascending.filter _⟩

theorem find?_put (catalog : Catalog) (key other : String) (table : Table) :
    (catalog.put key table).find? other = if other = key then some table else catalog.find? other := by
  simp only [find?, put]
  induction catalog.entries with
  | nil => simp only [insertEntry, List.lookup_cons, List.lookup_nil]; grind
  | cons head entries ih =>
    unfold insertEntry
    split
    · simp only [List.lookup_cons]; grind
    split <;> simp only [List.lookup_cons] <;> grind

theorem find?_erase (catalog : Catalog) (key other : String) :
    (catalog.erase key).find? other = if other = key then none else catalog.find? other := by
  simp only [find?, erase]
  induction catalog.entries with
  | nil => simp
  | cons head entries ih => simp only [List.filter_cons]; grind

theorem lookup_eq_none_of_above {key : String} {entries : List (String × Table)}
    (above : ∀ entry ∈ entries, key < entry.1) : entries.lookup key = none := by
  refine List.lookup_eq_none_iff.mpr fun entry member => ?_
  have different : key ≠ entry.1 := fun same => String.lt_irrefl _ (same ▸ above entry member)
  simpa using different

theorem le_of_lookup {key : String} {head : String × Table} {entries : List (String × Table)} {table : Table}
    (above : ∀ entry ∈ entries, head.1 < entry.1) (found : (head :: entries).lookup key = some table) :
    head.1 ≤ key := by
  refine String.not_lt.mp fun below => ?_
  rw [lookup_eq_none_of_above] at found
  · cases found
  · intro entry member
    rcases List.mem_cons.mp member with rfl | member
    · exact below
    · exact String.lt_trans below (above entry member)

theorem eq_of_lookup {first second : List (String × Table)}
    (ascendingFirst : first.Pairwise fun one other => one.1 < other.1)
    (ascendingSecond : second.Pairwise fun one other => one.1 < other.1)
    (same : ∀ key, first.lookup key = second.lookup key) : first = second := by
  induction first generalizing second with
  | nil =>
    cases second with
    | nil => rfl
    | cons head entries => obtain ⟨key, table⟩ := head; simpa [List.lookup_cons] using same key
  | cons head entries ih =>
    obtain ⟨key, table⟩ := head
    cases second with
    | nil => simpa [List.lookup_cons] using same key
    | cons other others =>
      obtain ⟨otherKey, otherTable⟩ := other
      obtain ⟨above, rest⟩ := List.pairwise_cons.mp ascendingFirst
      obtain ⟨otherAbove, otherRest⟩ := List.pairwise_cons.mp ascendingSecond
      have found : ((key, table) :: entries).lookup key = some table := by simp
      have otherFound : ((otherKey, otherTable) :: others).lookup otherKey = some otherTable := by simp
      have below : key ≤ otherKey := le_of_lookup above ((same _).trans otherFound)
      have otherBelow : otherKey ≤ key := le_of_lookup otherAbove ((same _) ▸ found)
      obtain rfl : key = otherKey := String.le_antisymm below otherBelow
      obtain rfl : table = otherTable := Option.some.inj (found.symm.trans ((same key).trans otherFound))
      refine congrArg _ (ih rest otherRest fun query => ?_)
      by_cases here : query = key
      · rw [here, lookup_eq_none_of_above above, lookup_eq_none_of_above otherAbove]
      · have apart : (query == key) = false := by simpa using here
        simpa [List.lookup_cons, apart] using same query

/-- Catalogs are told apart by what is found in them. -/
theorem eq_of_find? {first second : Catalog} (same : ∀ key, first.find? key = second.find? key) :
    first = second := by
  obtain ⟨entries, ascending⟩ := first
  obtain ⟨others, othersAscending⟩ := second
  obtain rfl : entries = others := eq_of_lookup ascending othersAscending same
  rfl

def get? (catalog : Catalog) (name : String) : Option Table := catalog.find? (key name)

def get (catalog : Catalog) (name : String) : Except Error Table :=
  match catalog.get? name with
  | some table => .ok table
  | none => .error (.unknownTable name)

/-- Adds a table unless its name is taken. -/
def create (catalog : Catalog) (table : Table) : Except Error Catalog :=
  match catalog.get? table.name with
  | some _ => .error (.tableExists table.name)
  | none => .ok (catalog.put (key table.name) table)

def drop (catalog : Catalog) (name : String) : Except Error (Table × Catalog) :=
  match catalog.get? name with
  | some table => .ok (table, catalog.erase (key name))
  | none => .error (.unknownTable name)

/-- Puts a changed table back under the name it was found by. -/
def replace (catalog : Catalog) (name : String) (table : Table) : Catalog := catalog.put (key name) table

end Catalog

end MiniSql

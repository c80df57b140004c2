import MiniSql.Proofs.QueryMeaning
import MiniSql.Proofs.TextBuilt

/-! Joins by definition. Two nested loops give, for each kind of join, the rows that its definition lists from the
pairs of rows that match: each pair once, and each row without a partner once where the kind keeps it. -/

namespace MiniSql

section
variable (pairs : Row → Row → Bool)

/-- A left row put together with each right row that it pairs with. -/
def rowsOfLeft (rights : List Row) (left : Row) : List Row := (rights.filter (pairs left)).map (left ++ ·)

/-- A right row put together with each left row that it pairs with. -/
def rowsOfRight (lefts : List Row) (right : Row) : List Row := (lefts.filter (pairs · right)).map (· ++ right)

/-- What is found for each row in turn, or its padding where that is nothing. -/
def padded (pad found : Row → List Row) (rows : List Row) : List Row :=
  rows.flatMap fun row => if (found row).isEmpty then pad row else found row

/-- The rows of a join, given which pairs match. A row that matches none is padded with NULL if the kind keeps it. -/
def JoinKind.combine (kind : JoinKind) (leftWidth rightWidth : Nat) (lefts rights : List Row) : List Row :=
  let padLeft (left : Row) := [left ++ Relation.nulls rightWidth]
  let padRight (right : Row) := [Relation.nulls leftWidth ++ right]
  match kind with
  | .inner => lefts.flatMap (rowsOfLeft pairs rights)
  | .left => padded padLeft (rowsOfLeft pairs rights) lefts
  | .right => padded padRight (rowsOfRight pairs lefts) rights
  | .full => padded padLeft (rowsOfLeft pairs rights) lefts ++
      (rights.filter fun right => lefts.all fun left => !pairs left right).map (Relation.nulls leftWidth ++ ·)

end

section
variable {pairs others : Row → Row → Bool} {lefts rights rows : List Row}

private theorem padded_nil (found : Row → List Row) (rows : List Row) : padded (fun _ => []) found rows = rows.flatMap found := by
  refine List.flatMap_congr fun row _ => ?_
  split
  next empty => rw [List.isEmpty_iff.mp empty]
  next => rfl

private theorem padded_congr {pad found other : Row → List Row} (same : ∀ row ∈ rows, found row = other row) :
    padded pad found rows = padded pad other rows :=
  List.flatMap_congr fun row member => by rw [same row member]

theorem JoinKind.combine_congr {kind : JoinKind} {leftWidth rightWidth : Nat}
    (same : ∀ left ∈ lefts, ∀ right ∈ rights, pairs left right = others left right) :
    kind.combine pairs leftWidth rightWidth lefts rights = kind.combine others leftWidth rightWidth lefts rights := by
  have ofLeft : ∀ left ∈ lefts, rowsOfLeft pairs rights left = rowsOfLeft others rights left :=
    fun left member => congrArg _ (List.filter_congr (same left member))
  have ofRight : ∀ right ∈ rights, rowsOfRight pairs lefts right = rowsOfRight others lefts right :=
    fun right present => congrArg _ (List.filter_congr fun left member => same left member right present)
  have lonely : (rights.filter fun right => lefts.all fun left => !pairs left right) =
      rights.filter fun right => lefts.all fun left => !others left right := by
    refine List.filter_congr fun right present => ?_
    rw [Bool.eq_iff_iff, List.all_eq_true, List.all_eq_true]
    exact forall₂_congr fun left member => by rw [same left member right present]
  cases kind with
  | inner => exact List.flatMap_congr ofLeft
  | left => exact padded_congr ofLeft
  | right => exact padded_congr ofRight
  | full =>
    simp only [combine]
    rw [padded_congr ofLeft, lonely]

/-- Each row of a join has a row of the left table or NULLs in front, and a row of the right table or NULLs behind. -/
theorem JoinKind.mem_combine {kind : JoinKind} {leftWidth rightWidth : Nat} {row : Row}
    (member : row ∈ kind.combine pairs leftWidth rightWidth lefts rights) :
    ∃ left right, row = left ++ right ∧ (left ∈ lefts ∨ left = Relation.nulls leftWidth) ∧
      (right ∈ rights ∨ right = Relation.nulls rightWidth) := by
  have ofLeft : ∀ left ∈ lefts, row ∈ rowsOfLeft pairs rights left → ∃ right ∈ rights, row = left ++ right := by
    intro left _ inside
    obtain ⟨right, found, rfl⟩ := List.mem_map.mp inside
    exact ⟨right, List.mem_of_mem_filter found, rfl⟩
  have leftRows : row ∈ padded (fun left => [left ++ Relation.nulls rightWidth]) (rowsOfLeft pairs rights) lefts →
      ∃ left ∈ lefts, ∃ right, row = left ++ right ∧ (right ∈ rights ∨ right = Relation.nulls rightWidth) := by
    intro inside
    obtain ⟨left, present, inside⟩ := List.mem_flatMap.mp inside
    split at inside
    · exact ⟨left, present, _, List.mem_singleton.mp inside, .inr rfl⟩
    · obtain ⟨right, found, same⟩ := ofLeft left present inside
      exact ⟨left, present, right, same, .inl found⟩
  cases kind with
  | inner =>
    obtain ⟨left, present, inside⟩ := List.mem_flatMap.mp member
    obtain ⟨right, found, same⟩ := ofLeft left present inside
    exact ⟨left, right, same, .inl present, .inl found⟩
  | left =>
    obtain ⟨left, present, right, same, source⟩ := leftRows member
    exact ⟨left, right, same, .inl present, source⟩
  | right =>
    obtain ⟨right, present, inside⟩ := List.mem_flatMap.mp member
    split at inside
    · exact ⟨_, right, List.mem_singleton.mp inside, .inr rfl, .inl present⟩
    · obtain ⟨left, found, rfl⟩ := List.mem_map.mp inside
      exact ⟨left, right, rfl, .inl (List.mem_of_mem_filter found), .inl present⟩
  | full =>
    rcases List.mem_append.mp member with member | member
    · obtain ⟨left, present, right, same, source⟩ := leftRows member
      exact ⟨left, right, same, .inl present, source⟩
    · obtain ⟨right, present, rfl⟩ := List.mem_map.mp member
      exact ⟨_, right, rfl, .inr rfl, .inl (List.mem_of_mem_filter present)⟩

end

namespace Relation
variable {positions : JoinPositions} {lefts rights : List Row} {left right : Row}

namespace JoinPositions

/-- The pair is found to match. -/
def Pairs (positions : JoinPositions) (left right : Row) : Bool := positions.matched (left ++ right) = .ok true

private theorem partners_eq_ok {index : Nat} {found : List (Nat × Row)}
    (done : positions.partners left index rights = .ok found) :
    found = ((rights.zipIdx index).filter fun entry => positions.Pairs left entry.1).map fun entry =>
      (entry.2, left ++ entry.1) := by
  induction rights generalizing index found with
  | nil => exact (Except.ok.inj done).symm
  | cons right rights ih =>
    obtain ⟨passed, tested, done⟩ := Except.bind_eq_ok.mp done
    rw [List.zipIdx_cons]
    cases passed with
    | true =>
      obtain ⟨rest, remaining, same⟩ := Except.bind_eq_ok.mp done
      rw [← Except.ok.inj same, ih remaining, List.filter_cons_of_pos (by simp [Pairs, tested]), List.map_cons]
    | false => rw [ih done, List.filter_cons_of_neg (by simp [Pairs, tested])]

private theorem partnersOfRight_eq_ok {found : List Row} (done : positions.partnersOfRight right lefts = .ok found) :
    found = rowsOfRight positions.Pairs lefts right := by
  rw [keep_eq_ok done, List.filter_map]
  rfl

end JoinPositions

open JoinPositions

private theorem filter_zipIdx (test : Row → Bool) (rows : List Row) (start : Nat) :
    ((rows.zipIdx start).filter fun entry => test entry.1).map Prod.fst = rows.filter test := by
  rw [← List.zipIdx_map_fst start rows, List.filter_map]
  simp [Function.comp_def]

/-- The positions that the left rows leave behind are those of the right rows that some left row pairs with. -/
theorem joinLefts_eq_ok {pad : Row → List Row} {rows : List Row} {matched : List Nat}
    (done : joinLefts positions pad rights lefts = .ok (rows, matched)) :
    rows = padded pad (rowsOfLeft positions.Pairs rights) lefts ∧
      ∀ entry ∈ rights.zipIdx, entry.2 ∈ matched ↔ ∃ left ∈ lefts, positions.Pairs left entry.1 := by
  induction lefts generalizing rows matched with
  | nil =>
    cases done
    exact ⟨rfl, by simp⟩
  | cons left lefts ih =>
    obtain ⟨found, own, done⟩ := Except.bind_eq_ok.mp done
    obtain ⟨⟨others, more⟩, rest, same⟩ := Except.bind_eq_ok.mp done
    obtain ⟨rowsRest, matchedRest⟩ := ih rest
    cases same
    have shape := partners_eq_ok own
    constructor
    · have values : found.map Prod.snd = rowsOfLeft positions.Pairs rights left := by
        rw [shape, rowsOfLeft, ← filter_zipIdx (positions.Pairs left) rights 0, List.map_map, List.map_map]
        rfl
      have empty : found.isEmpty = (rowsOfLeft positions.Pairs rights left).isEmpty := by
        rw [← values, List.isEmpty_map]
      rw [padded, List.flatMap_cons, ← padded, ← rowsRest, values, empty]
    · intro entry member
      have here : entry.2 ∈ found.map Prod.fst ↔ positions.Pairs left entry.1 := by
        rw [shape, List.map_map, List.mem_map]
        constructor
        · rintro ⟨other, inside, same⟩
          obtain ⟨present, paired⟩ := List.mem_filter.mp inside
          have one := List.mem_zipIdx_iff_getElem?.mp present
          have two := List.mem_zipIdx_iff_getElem?.mp member
          rw [show other.2 = entry.2 from same] at one
          rwa [Option.some.inj (two.symm.trans one)]
        · intro paired
          exact ⟨entry, List.mem_filter.mpr ⟨member, paired⟩, rfl⟩
      rw [List.mem_append, matchedRest entry member, here]
      simp

private theorem joinRights_eq_ok {width : Nat} {rows : List Row} (done : joinRights positions width lefts rights = .ok rows) :
    rows = padded (fun right => [nulls width ++ right]) (rowsOfRight positions.Pairs lefts) rights := by
  induction rights generalizing rows with
  | nil => exact (Except.ok.inj done).symm
  | cons right rights ih =>
    obtain ⟨found, own, done⟩ := Except.bind_eq_ok.mp done
    obtain ⟨others, rest, same⟩ := Except.bind_eq_ok.mp done
    rw [← Except.ok.inj same, ih rest, partnersOfRight_eq_ok own, padded, padded, List.flatMap_cons]

private theorem unmatchedRights_eq {width : Nat} {matched : List Nat}
    (known : ∀ entry ∈ rights.zipIdx, entry.2 ∈ matched ↔ ∃ left ∈ lefts, positions.Pairs left entry.1) :
    unmatchedRights width matched rights =
      (rights.filter fun right => lefts.all fun left => !positions.Pairs left right).map (nulls width ++ ·) := by
  rw [unmatchedRights, ← filter_zipIdx _ rights 0, List.map_map]
  refine congrArg _ (List.filter_congr fun entry member => ?_)
  rw [Bool.eq_iff_iff]
  simp [known entry member]

/-- A join that succeeds has tried every left row with every right row, and its rows are those of the definition. -/
theorem joinRows_eq_ok {kind : JoinKind} {left right : Relation} {rows : List Row}
    (done : joinRows kind positions left right = .ok rows) :
    rows = kind.combine positions.Pairs left.columns.length right.columns.length left.rows right.rows := by
  cases kind with
  | inner =>
    obtain ⟨⟨others, matched⟩, joined, same⟩ := Except.bind_eq_ok.mp done
    rw [← Except.ok.inj same, (joinLefts_eq_ok joined).1, padded_nil]
    rfl
  | left =>
    obtain ⟨⟨others, matched⟩, joined, same⟩ := Except.bind_eq_ok.mp done
    rw [← Except.ok.inj same, (joinLefts_eq_ok joined).1]
    rfl
  | right => exact joinRights_eq_ok done
  | full =>
    obtain ⟨⟨others, matched⟩, joined, same⟩ := Except.bind_eq_ok.mp done
    obtain ⟨rows, known⟩ := joinLefts_eq_ok joined
    rw [← Except.ok.inj same, unmatchedRights_eq known, rows]
    rfl

/-- In a join that succeeds each operand of ON stands for the first column of its name. -/
theorem join_eq_ok {kind : JoinKind} {leftTable rightTable : String} {left right joined : Relation} {on : JoinCondition}
    (done : join kind leftTable left rightTable right on = .ok joined) :
    let names := qualify leftTable left.columns ++ qualify rightTable right.columns
    joined = ⟨names, kind.combine (JoinPositions.Pairs ⟨names.idxOf on.first, names.idxOf on.second⟩)
      left.columns.length right.columns.length left.rows right.rows⟩ := by
  intro names
  obtain ⟨first, placed, done⟩ := Except.bind_eq_ok.mp done
  obtain ⟨second, placedSecond, done⟩ := Except.bind_eq_ok.mp done
  obtain ⟨rows, combined, rfl⟩ := Except.map_eq_ok.mp done
  obtain rfl := (columnPosition_eq_ok.mp placed).2
  obtain rfl := (columnPosition_eq_ok.mp placedSecond).2
  rw [joinRows_eq_ok combined]

end Relation

/-- What an operand of ON names in a pair of rows: a cell of the left row or one of the right row. -/
inductive Operand (left : String) (leftColumns : List String) (right : String) (rightColumns : List String) :
    String → (Row → Row → Value) → Prop
  | left {column : String} (known : column ∈ leftColumns) :
    Operand left leftColumns right rightColumns (left ++ "." ++ column) fun row _ => row.value leftColumns column
  | right {column : String} (known : column ∈ rightColumns) :
    Operand left leftColumns right rightColumns (right ++ "." ++ column) fun _ row => row.value rightColumns column

/-- Behind a table's name without a period, the first period ends it. -/
theorem qualified_inj {table other column name : String} (plain : '.' ∉ table.toList) (plainOther : '.' ∉ other.toList)
    (same : table ++ "." ++ column = other ++ "." ++ name) : table = other ∧ column = name := by
  have chars := congrArg String.toList same
  simp only [String.toList_append, List.append_assoc] at chars
  have before : ∀ (text : String) (rest : List Char), '.' ∉ text.toList →
      (text.toList ++ (".".toList ++ rest)).takeWhile (· ≠ '.') = text.toList := by
    intro text rest plain
    have all : ∀ char ∈ text.toList, decide (char ≠ '.') = true := by
      intro char member
      exact decide_eq_true fun period => plain (period ▸ member)
    rw [List.takeWhile_append_of_pos all]
    exact List.append_nil _
  have front := congrArg (List.takeWhile (· ≠ '.')) chars
  rw [before _ _ plain, before _ _ plainOther] at front
  obtain rfl := String.toList_inj.mp front
  have behind := List.append_cancel_left (List.append_cancel_left chars)
  exact ⟨rfl, String.toList_inj.mp behind⟩

namespace Relation

/-- Columns of tables whose names differ and have no period are told apart by their qualified names. -/
theorem nodup_qualify {left right : String} {leftColumns rightColumns : List String} (plain : '.' ∉ left.toList)
    (plainRight : '.' ∉ right.toList) (apart : left ≠ right) (distinct : leftColumns.Nodup)
    (distinctRight : rightColumns.Nodup) : (qualify left leftColumns ++ qualify right rightColumns).Nodup := by
  have injective {table : String} (plain : '.' ∉ table.toList) : Function.Injective fun column => table ++ "." ++ column :=
    fun _ _ same => (qualified_inj plain plain same).2
  refine List.nodup_append.mpr ⟨distinct.map (injective plain), distinctRight.map (injective plainRight), ?_⟩
  rintro _ member _ memberRight rfl
  obtain ⟨column, _, same⟩ := List.mem_map.mp member
  obtain ⟨other, _, rfl⟩ := List.mem_map.mp memberRight
  exact apart (qualified_inj plain plainRight same).1

theorem cell_of_operand {left right name : String} {leftColumns rightColumns : List String} {pick : Row → Row → Value}
    (distinct : (qualify left leftColumns ++ qualify right rightColumns).Nodup)
    (operand : Operand left leftColumns right rightColumns name pick) {row other : Row}
    (long : row.length = leftColumns.length) (longOther : other.length = rightColumns.length) :
    (row ++ other).cell ((qualify left leftColumns ++ qualify right rightColumns).idxOf name) = .ok (pick row other) := by
  have placed {index : Nat} (place : (qualify left leftColumns ++ qualify right rightColumns)[index]? = some name) :
      (qualify left leftColumns ++ qualify right rightColumns).idxOf name = index := by
    obtain ⟨inside, rfl⟩ := List.getElem?_eq_some_iff.mp place
    exact distinct.idxOf_getElem index inside
  rw [Row.cell_eq_ok]
  cases operand with
  | @left column known =>
    have inside := List.idxOf_lt_length_of_mem known
    rw [@placed (leftColumns.idxOf column), List.getElem?_append_left (long ▸ inside)]
    · simp [Row.value, long, inside]
    · rw [List.getElem?_append_left (by simpa [qualify] using inside)]
      simp [qualify, inside]
  | @right column known =>
    have inside := List.idxOf_lt_length_of_mem known
    rw [@placed (leftColumns.length + rightColumns.idxOf column), ← long, List.getElem?_append_right (Nat.le_add_right _ _)]
    · simp [Row.value, longOther, inside]
    · rw [List.getElem?_append_right (by simp [qualify])]
      simp [qualify, inside]

theorem matched_iff {positions : JoinPositions} {row : Row} {first second : Value}
    (read : row.cell positions.first = .ok first) (readSecond : row.cell positions.second = .ok second) :
    positions.matched row = .ok true ↔ first ≠ .null ∧ second ≠ .null ∧ first = second := by
  simp only [JoinPositions.matched, read, readSecond, bind, Except.bind]
  cases first <;> cases second <;> simp [Value.equal?, Value.datatype?, pure, Except.pure]

end Relation

theorem Engine.plain_of_get {texts : List String} {name : String} {table : Table}
    (found : (executed texts).get name = .ok table) : '.' ∉ name.toList := by
  have written := Catalog.table_written (executed_written texts) (Catalog.get_eq_ok.mp found)
  intro period
  apply written.name.2
  have own : Catalog.key name = table.name := by
    rw [(Catalog.get_valid (executed_valid texts) found).1]
    exact written.name.1.upper
  have fixed : Text.UpperFixed '.' := Text.upperFixed_of_lt (by decide)
  rw [Table.name_contents, ← own, Catalog.key, Text.upper, String.toList_ofList]
  exact List.mem_flatMap.mpr ⟨'.', period, by rw [fixed, List.mem_singleton]⟩

/-- Over tables that text has built, a join that succeeds has the columns of both tables under distinct names, and its
rows are those of its definition, where a pair matches if the two cells that ON names are equal and neither is NULL. -/
theorem Engine.join_rows (texts : List String) {select : Select} {join : Join} {left right : Table}
    {first second : Row → Row → Value} {result : Relation} (both : select.join = some join)
    (found : (executed texts).get select.table = .ok left) (foundOther : (executed texts).get join.table = .ok right)
    (apart : Catalog.key select.table ≠ Catalog.key join.table)
    (operand : Operand select.table left.columnNames join.table right.columnNames join.on.first first)
    (operandSecond : Operand select.table left.columnNames join.table right.columnNames join.on.second second)
    (ran : ((Plan.ofSource select).run (executed texts)).1 = .ok (.relation result)) :
    result.columns = Relation.qualify select.table left.columnNames ++ Relation.qualify join.table right.columnNames ∧
      result.columns.Nodup ∧
      result.rows = join.kind.combine
        (fun one other => first one other ≠ .null ∧ second one other ≠ .null ∧ first one other = second one other)
        left.columns.length right.columns.length left.rows right.rows := by
  have valid := executed_valid texts
  have distinct := Relation.nodup_qualify (plain_of_get found) (plain_of_get foundOther)
    (fun same => apart (congrArg _ same)) (Catalog.get_valid valid found).2.distinct
    (Catalog.get_valid valid foundOther).2.distinct
  obtain ⟨source, read, same⟩ := Except.map_eq_ok.mp ((congrArg Prod.fst (Plan.reads_source select _)).symm.trans ran)
  cases same
  cases Select.source_of_contents read with
  | table single => cases single.symm.trans both
  | join other leftTable rightTable joined =>
    cases other.symm.trans both
    cases leftTable.symm.trans found
    cases rightTable.symm.trans foundOther
    obtain ⟨one, placed, joined⟩ := Except.bind_eq_ok.mp joined
    obtain ⟨two, placedSecond, joined⟩ := Except.bind_eq_ok.mp joined
    obtain ⟨rows, combined, same⟩ := Except.bind_eq_ok.mp joined
    cases same
    refine ⟨rfl, distinct, ?_⟩
    obtain rfl := (columnPosition_eq_ok.mp placed).2
    obtain rfl := (columnPosition_eq_ok.mp placedSecond).2
    have sized {table : Table} {row : Row} (member : row ∈ table.rows) : row.length = table.columnNames.length := by
      obtain ⟨index, _, rfl⟩ := List.mem_map.mp member
      simp [Table.columnNames]
    rw [Relation.joinRows_eq_ok combined]
    simp only [Table.columnNames, List.length_map]
    refine JoinKind.combine_congr fun row member other present => decide_eq_decide.mpr ?_
    apply Relation.matched_iff
    · exact Relation.cell_of_operand distinct operand (sized member) (sized present)
    · exact Relation.cell_of_operand distinct operandSecond (sized member) (sized present)

/-- One left row has two partners and one has NULL, which finds none; a right row is left over. -/
theorem Engine.full_join_rows :
    let texts := ["CREATE TABLE T(A INT);", "INSERT INTO T VALUES(NULL);", "INSERT INTO T VALUES(1);",
      "CREATE TABLE U(B INT);", "INSERT INTO U VALUES(1);", "INSERT INTO U VALUES(NULL);", "INSERT INTO U VALUES(1);"]
    let select : Select := ⟨"T", .all, false, some ⟨.full, "U", ⟨"U.B", "T.A"⟩⟩⟩
    let result : Relation := ⟨["T.A", "U.B"], [[.null, .null], [.int 1, .int 1], [.int 1, .int 1], [.null, .null]]⟩
    ((Plan.ofSource select).run (executed texts)).1 = .ok (.relation result) ∧
      result.columns = Relation.qualify "T" ["A"] ++ Relation.qualify "U" ["B"] ∧ result.columns.Nodup ∧
      result.rows = JoinKind.full.combine
        (fun one other => other.value ["B"] "B" ≠ .null ∧ one.value ["A"] "A" ≠ .null ∧
          other.value ["B"] "B" = one.value ["A"] "A")
        1 1 [[.null], [.int 1]] [[.int 1], [.null], [.int 1]] := by
  intro texts select result
  obtain ⟨left, right, ran⟩ : (executed texts).get "T" = .ok ⟨"T", [⟨"A", .int, #[.null, .int 1]⟩], 2⟩ ∧
      (executed texts).get "U" = .ok ⟨"U", [⟨"B", .int, #[.int 1, .null, .int 1]⟩], 3⟩ ∧
      ((Plan.ofSource select).run (executed texts)).1 = .ok (.relation result) := by
    decide +kernel
  have operand := @Operand.right "T" ["A"] "U" ["B"] "B" (by decide)
  have operandSecond := @Operand.left "T" ["A"] "U" ["B"] "A" (by decide)
  exact ⟨ran, @join_rows texts select _ _ _ _ _ result rfl left right (by decide +kernel) operand operandSecond ran⟩

end MiniSql

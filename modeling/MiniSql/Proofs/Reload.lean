import MiniSql.Proofs.RoundTrip
import MiniSql.Proofs.TextBuilt
import MiniSql.Proofs.TypeSoundness

/-! Dump and reload. A row that texts have brought into a table can be written out with commas between its values, and
an INSERT of that text brings the same row into any table whose columns have the same types. -/

namespace MiniSql
open Token Grammar

namespace Value

/-- The token that stands for a value. -/
def token : Value → Token
  | null => ⟨.keyword .NULL, Keyword.NULL.text⟩
  | int number => ⟨.literal, number.repr⟩
  | text content => ⟨.ident, content⟩

private theorem renderValue_token (value : Value) : value.token.renderValue = value.render := by
  cases value <;> rfl

namespace Written
variable {value : Value}

private theorem formed (written : value.Written) : value.token.Formed := by
  cases written with
  | null => exact .null
  | @int number nonneg =>
    obtain ⟨size, rfl⟩ := Int.eq_ofNat_of_zero_le nonneg
    exact .number (digits_repr size)
  | text scanned => exact .word scanned

private theorem ofToken (written : value.Written) : Value.ofToken value.token = .ok value := by
  cases written with
  | null => rfl
  | @int number nonneg bounded =>
    obtain ⟨size, rfl⟩ := Int.eq_ofNat_of_zero_le nonneg
    have fits : fitsInteger size = true := by
      simp only [fitsInteger, Bool.and_eq_true, decide_eq_true_eq]
      exact ⟨Int.le_trans (by decide) nonneg, bounded⟩
    have decimal : Text.Decimal.int? size.repr.toList = some (size : Int) := int?_repr size
    have shown : (Value.int size).token = ⟨.literal, size.repr⟩ := rfl
    simp only [Value.ofToken, shown, decimal, if_pos fits]
  | text scanned => rfl

end Written

end Value

private theorem lex_commas (texts : List String) {rest : List Char} (breaks : Breaks rest) :
    Breaks ((texts.flatMap fun text => ',' :: text.toList) ++ rest) ∧
      lex ((texts.flatMap fun text => ',' :: text.toList) ++ rest) = lex (commaTail texts ++ rest) := by
  induction texts with
  | nil => exact ⟨breaks, rfl⟩
  | cons text texts ih =>
    obtain ⟨breaksTail, same⟩ := ih
    have behind := @lex_behind text.toList _ _ breaksTail (breaks_commaTail breaks) same
    constructor
    · exact breaks_mark (by simp)
    · simp only [List.flatMap_cons, commaTail, List.cons_append, List.append_assoc] at behind ⊢
      rw [lex_mark (by simp), lex_mark (by simp), lex_space, behind]

private theorem lex_intercalate (texts : List String) {rest : List Char} (breaks : Breaks rest) :
    lex ((",".intercalate texts).toList ++ rest) = lex ((commaList texts).toList ++ rest) := by
  cases texts with
  | nil => rfl
  | cons first others =>
    obtain ⟨breaksTail, same⟩ := lex_commas others breaks
    rw [toList_commaList, toList_intercalate_cons, List.append_assoc, List.append_assoc]
    exact lex_behind breaksTail (breaks_commaTail breaks) same

private theorem lex_upper (front : List Char) (name : String) (behind : List Char) :
    lex (front ++ (name.toList ++ behind)) = lex (front ++ ((Text.upper name).toList ++ behind)) := by
  have same : Text.upperChars (Text.upper name).toList = Text.upperChars name.toList := by
    rw [Text.upper, String.toList_ofList, Text.upperChars_of_fixed (Text.upperChars_fixed _)]
  simp only [lex, Text.upperChars_append, same]

/-- An INSERT as it is written by hand, with the name in any case and no space behind a comma. -/
def insertText (name : String) (values : List String) : String :=
  "INSERT INTO " ++ name ++ " VALUES(" ++ ",".intercalate values ++ ");"

private theorem scan_insertText (name : String) (tokens : List Token) :
    scan (insertText name (tokens.map renderValue)) = scan (Command.render (.insert (Text.upper name) tokens)) := by
  have hand : (insertText name (tokens.map renderValue)).toList = "INSERT INTO ".toList ++ (name.toList ++
      (" VALUES".toList ++ '(' :: ((",".intercalate (tokens.map renderValue)).toList ++ [')', ';']))) := by
    unfold insertText
    rw [String.toList_append, String.toList_append, String.toList_append, String.toList_append]
    simp only [List.append_assoc]
    rfl
  have printed : (Command.render (.insert (Text.upper name) tokens)).toList = ("INSERT INTO ".toList ++
      (Text.upper name).toList ++ " VALUES".toList) ++ '(' :: ((commaList (tokens.map renderValue)).toList ++ [')', ';']) := by
    unfold Command.render
    simp only [renderValues, String.toList_append, List.append_assoc]
    rfl
  have list : lex ('(' :: ((",".intercalate (tokens.map renderValue)).toList ++ [')', ';'])) =
      lex ('(' :: ((commaList (tokens.map renderValue)).toList ++ [')', ';'])) := by
    rw [lex_mark (by simp), lex_mark (by simp), lex_intercalate _ (breaks_mark (by simp))]
  change lex (insertText _ _).toList = lex (Command.render _).toList
  rw [hand, printed, lex_upper, ← lex_behind (breaks_mark (by simp)) (breaks_mark (by simp)) list]
  simp only [List.append_assoc]

private theorem parse_insertText {name : String} {tokens : List Token} (identifier : Identifier (Text.upper name))
    (formed : ∀ token ∈ tokens, token.Formed) :
    Command.parse (insertText name (tokens.map renderValue)) = .ok [.insert (Text.upper name) tokens] := by
  have wellFormed : Command.WellFormed [.insert (Text.upper name) tokens] :=
    ⟨List.forall_mem_singleton.mpr ⟨identifier, formed⟩, @Command.Chained.cons [] _ [] (List.mem_singleton_self _) .nil⟩
  have parsed := Command.parse_renderAll wellFormed
  rw [Command.parse, scan_insertText]
  exact parsed

theorem Row.Fits.valueOf {columns : List ColumnDef} {row : Row} (fits : row.Fits columns)
    (written : ∀ value ∈ row, value.Written) :
    (columns.zip (row.map Value.token)).mapM (fun entry => entry.1.valueOf .INSERT entry.2) = .ok row := by
  induction fits with
  | nil => rfl
  | @cons column value columns row own _ ih =>
    obtain ⟨first, others⟩ := List.forall_mem_cons.mp written
    have typed : column.valueOf .INSERT value.token = .ok value := by
      rw [ColumnDef.valueOf, first.ofToken]
      exact if_pos own
    rw [List.map_cons, List.zip_cons_cons, List.mapM_cons, typed, ih others]
    rfl

private theorem Table.insert_row {table : Table} {row : Row} (valid : table.Valid) (fits : row.Fits table.schema)
    (written : ∀ value ∈ row, value.Written) : ∃ after, table.insert (row.map Value.token) = .ok after ∧
      after.name = table.name ∧ after.schema = table.schema ∧ after.rows = table.rows ++ [row] := by
  have counted : (row.map Value.token).length = table.contents.columns.length := by
    rw [List.length_map, Table.columns_contents, fits.length_eq]
  have stored : table.contents.insert (row.map Value.token) =
      .ok { table.contents with rows := table.rows ++ [row] } := by
    rw [RowTable.insert, RowTable.typedRow, if_neg (not_not.mpr counted), Table.columns_contents]
    simp only [bind, Except.bind, fits.valueOf written]
    rfl
  rw [← Table.contents_insert valid.aligned] at stored
  obtain ⟨after, inserted, contents⟩ := Except.map_eq_ok.mp stored
  exact ⟨after, inserted, RowTable.mk.inj contents⟩

namespace Engine

private theorem execute_insertText {catalog : Catalog} {name : String} {table after : Table} {tokens : List Token}
    (identifier : Identifier (Text.upper name)) (formed : ∀ token ∈ tokens, token.Formed)
    (found : catalog.get (Text.upper name) = .ok table) (inserted : table.insert tokens = .ok after) :
    execute (insertText name (tokens.map renderValue)) catalog =
      (⟨[.inserted after.name], none⟩, catalog.replace (Text.upper name) after) := by
  have accepted : Statement.ofCommands [.insert (Text.upper name) tokens] = .ok [.insert (Text.upper name) tokens] := rfl
  have ran : (Statement.insert (Text.upper name) tokens).run catalog =
      (.ok (.inserted after.name), catalog.replace (Text.upper name) after) := by
    change (Plan.insert _ _).run _ = _
    rw [Plan.run_insert, found]
    simp only [bind, Except.bind, inserted]
  rw [execute_parsed (parse_insertText identifier formed), evaluate_accepted accepted, runStatements, ran]
  rfl

/-- A row that texts have brought into a table can be written out as a text that brings it into another table, where it
goes behind all other rows. The columns may have other names there, and the table's name may be spelled in any case. -/
theorem reload (texts others : List String) {source target : String × Table} {row : Row} {name : String}
    (present : source ∈ (executed texts).entries) (member : row ∈ source.2.rows)
    (known : target ∈ (executed others).entries)
    (types : source.2.columns.map Column.datatype = target.2.columns.map Column.datatype)
    (spelled : Catalog.key name = target.1) :
    let (evaluation, after) := execute (insertText name (row.map Value.render)) (executed others)
    evaluation = ⟨[.inserted target.2.name], none⟩ ∧
      (∃ table, after.find? target.1 = some table ∧ table.name = target.2.name ∧ table.schema = target.2.schema ∧
        table.rows = target.2.rows ++ [row]) ∧
      ∀ key, key ≠ target.1 → after.find? key = (executed others).find? key := by
  have valid := executed_valid texts
  have written := (Catalog.table_written (executed_written texts) (Catalog.mem_entries_iff.mp present)).cells row member
  have stored := Catalog.mem_entries_iff.mp known
  obtain ⟨keyed, sound⟩ := Catalog.valid_iff.mp (executed_valid others) _ _ stored
  have named : NewName target.2.name := (Catalog.table_written (executed_written others) stored).name
  have upper : Text.upper name = target.2.name := spelled.trans (keyed.trans named.1.upper)
  have fits : row.Fits target.2.schema := by
    refine Row.Fits.of_types ((valid.tables source present).hasType.rows row member) ?_
    simpa [Table.schema, Column.declaration, Function.comp_def] using types
  obtain ⟨changed, inserted, sameName, sameSchema, rows⟩ := Table.insert_row sound fits written
  have formed : ∀ token ∈ row.map Value.token, token.Formed :=
    List.forall_mem_map.mpr fun value inside => (written value inside).formed
  have found : (executed others).get target.2.name = .ok target.2 := by rwa [Catalog.get_eq_ok, ← keyed]
  have executes := execute_insertText (upper ▸ named.1) formed (upper ▸ found) inserted
  rw [List.map_map, show renderValue ∘ Value.token = Value.render from funext Value.renderValue_token, upper] at executes
  rw [executes]
  refine ⟨congrArg (fun own => (⟨[.inserted own], none⟩ : Evaluation)) sameName,
    ⟨changed, ?_, sameName, sameSchema, rows⟩, fun key other => ?_⟩
  · rw [Catalog.replace, Catalog.find?_put, ← keyed, if_pos rfl]
  · rw [Catalog.replace, Catalog.find?_put, ← keyed, if_neg other]

/-- An apostrophe stands for itself between apostrophes. -/
theorem reload_apostrophe :
    let texts := ["CREATE TABLE T(A INT, B TEXT);", "INSERT INTO T VALUES(7, ''');"]
    let others := ["CREATE TABLE U(C INT, D TEXT);"]
    let table : Table := ⟨"T", [⟨"A", .int, #[.int 7]⟩, ⟨"B", .text, #[.text "'"]⟩], 1⟩
    let row : Row := [.int 7, .text "'"]
    ("T", table) ∈ (executed texts).entries ∧ row ∈ table.rows ∧
      insertText "u" (row.map Value.render) = "INSERT INTO u VALUES(7,''');" ∧
      (execute (insertText "u" (row.map Value.render)) (executed others)).1 = ⟨[.inserted "U"], none⟩ := by
  intro texts others table row
  have present : ("T", table) ∈ (executed texts).entries := by decide +kernel
  have member : row ∈ table.rows := by decide
  have known : ("U", ⟨"U", [⟨"C", .int, #[]⟩, ⟨"D", .text, #[]⟩], 0⟩) ∈ (executed others).entries := by decide +kernel
  exact ⟨present, member, by decide +kernel, (reload texts others present member known rfl (by decide +kernel)).1⟩

end Engine

end MiniSql

import Mathlib.Logic.Relation
import MiniSql.Proofs.ClauseGroups
import MiniSql.Proofs.ClausePlaces

/-! Spellings of the same statements. In front of a clause a semicolon may stand or not, and LIMIT and OFFSET may stand
in either order; texts that differ in nothing else are executed alike. -/

namespace MiniSql
open Text Token Grammar

namespace Command

/-- LIMIT or OFFSET with a number: the keyword in letters of any case, space and decimal digits. -/
inductive Spells (kind : ClauseKind) : String → Prop where
  | intro {word gap digits : String} (keyword : upper word = kind.keyword.text) (parted : gap ≠ "")
      (space : ∀ char ∈ gap.toList, isSpace char = true) (number : Digits digits) : Spells kind (word ++ gap ++ digits)

/-- A semicolon whose next token is the keyword of a clause is replaced by a space, or one is put between a command and
the clause that directly follows it. The keyword stands for no quoted value, and no token is cut in two. -/
inductive Reterminated : String → String → Prop where
  | dropped {front back : String} (opens : OpensClause (scan back)) : Reterminated (front ++ ";" ++ back) (front ++ " " ++ back)
  | added {front back : String} (seam : scan (front ++ back) = scan front ++ scan back) (opens : OpensClause (scan back))
      (bare : ¬ Quoted (scan front) (scan back).tail) (unmarked : ∀ token ∈ (scan front).getLast?, token.kind ≠ .semicolon) :
      Reterminated (front ++ back) (front ++ ";" ++ back)

/-- LIMIT and OFFSET, with nothing but space and semicolons between them, change places. The first keyword does not go on
a word in front of it, and the second number ends where its digits do. -/
inductive Exchanged : String → String → Prop where
  | intro {kind other : ClauseKind} {front a gap b back : String} (swaps : Swaps kind other)
      (first : Spells kind a) (second : Spells other b)
      (between : ∀ char ∈ gap.toList, isSpace char = true ∨ char = ';')
      (seam : scan (front ++ (a ++ gap ++ b ++ back)) = scan front ++ scan (a ++ gap ++ b ++ back))
      (ends : ∀ char ∈ back.toList.head?, char.isDigit = false) :
      Exchanged (front ++ (a ++ gap ++ b ++ back)) (front ++ (b ++ gap ++ a ++ back))

/-- The text is spelled in another way, one change after another. -/
def Respelled : String → String → Prop := Relation.ReflTransGen fun text other => Reterminated text other ∨ Exchanged text other

variable {text other front back a b gap : String} {commands : List Command} {kind next : ClauseKind} {rest : List Char}

private theorem scan_marked (nonzero : '\x00' ∉ front.toList) (back : String) :
    scan (front ++ ";" ++ back) = scan front ++ ⟨.semicolon, ";"⟩ :: scan back := by
  have marked : lex (front.toList ++ ';' :: back.toList) = lex front.toList ++ ⟨.semicolon, ";"⟩ :: lex back.toList := by
    rw [lex_append nonzero breaks_semicolon, lex_semicolon]
    rfl
  simpa [scan, lex] using marked

private theorem scan_spaced (nonzero : '\x00' ∉ front.toList) (back : String) :
    scan (front ++ " " ++ back) = scan front ++ scan back := by
  have spaced : lex (front.toList ++ ' ' :: back.toList) = lex front.toList ++ lex back.toList := by
    rw [lex_append nonzero (breaks_space rfl), lex_space]
  simpa [scan, lex] using spaced

private theorem scan_behind_zero (zero : '\x00' ∈ front.toList) (back : String) : scan (front ++ back) = scan front := by
  rw [scan, String.toList_append, ← lex, lex_append_of_zero zero, lex, ← scan]

private theorem Spells.folded (spells : Spells kind text) : ∃ gap digits, gap ≠ [] ∧ (∀ char ∈ gap, isSpace char = true) ∧
    Digits digits ∧ upperChars text.toList = kind.keyword.text.toList ++ (gap ++ digits.toList) := by
  obtain @⟨word, gap, digits, keyword, parted, space, number⟩ := spells
  have spelled : upperChars word.toList = kind.keyword.text.toList := by
    rw [← keyword, upper, String.toList_ofList]
  have blank : upperChars gap.toList = gap.toList := upperChars_of_fixed fun char member => upperFixed_space (space char member)
  have decimal : upperChars digits.toList = digits.toList := upperChars_of_fixed number.scanned.folded
  refine ⟨gap.toList, digits, by simpa using parted, space, number, ?_⟩
  rw [String.toList_append, String.toList_append, upperChars_append, upperChars_append, spelled, blank, decimal,
    List.append_assoc]

private theorem Spells.starts (spells : Spells kind text) :
    ∃ char tail, upperChars text.toList = char :: tail ∧ startsWord char = true := by
  obtain ⟨gap, digits, _, _, _, folded⟩ := spells.folded
  cases kind <;> exact ⟨_, _, folded, startsWord_capital (by decide)⟩

private theorem Spells.tokens (spells : Spells kind text) : ∃ digits, ∀ rest, (∀ char ∈ (upperChars rest).head?, char.isDigit = false) →
    lex (text.toList ++ rest) = ⟨.keyword kind.keyword, kind.keyword.text⟩ :: ⟨.literal, digits⟩ :: lex rest := by
  obtain ⟨gap, digits, parted, space, ⟨nonempty, all⟩, folded⟩ := spells.folded
  refine ⟨digits, fun rest ends => ?_⟩
  have stops : Stops (gap ++ (digits.toList ++ upperChars rest)) := by
    obtain ⟨blank, more, rfl⟩ := List.exists_cons_of_ne_nil parted
    rintro _ ⟨⟩
    exact not_continuesWord_space (space blank List.mem_cons_self)
  rw [lex, upperChars_append, folded, List.append_assoc, List.append_assoc,
    scanChars_of_some (next?_lexeme (scanned_keyword kind.keyword).lexeme stops), scanChars_skip space,
    scanChars_of_some (next?_number nonempty all ends), String.ofList_toList, lex]

theorem lex_between {gap : List Char} (between : ∀ char ∈ gap, isSpace char = true ∨ char = ';') :
    ∃ marks : List Token, (∀ token ∈ marks, token.kind = .semicolon) ∧ ∀ rest, lex (gap ++ rest) = marks ++ lex rest := by
  induction gap with
  | nil => exact ⟨[], nofun, fun _ => rfl⟩
  | cons char gap ih =>
    obtain ⟨own, others⟩ := List.forall_mem_cons.mp between
    obtain ⟨marks, semicolons, marked⟩ := ih others
    rcases own with space | rfl
    · exact ⟨marks, semicolons, fun rest => by rw [List.cons_append, lex_skip space, marked]⟩
    · refine ⟨symbol ';' :: marks, List.forall_mem_cons.mpr ⟨rfl, semicolons⟩, fun rest => ?_⟩
      rw [List.cons_append, lex_semicolon, marked, List.cons_append]

private theorem Spells.undigited {gap : List Char} (spells : Spells kind text)
    (between : ∀ char ∈ gap, isSpace char = true ∨ char = ';') :
    ∀ char ∈ (upperChars (gap ++ (text.toList ++ rest))).head?, char.isDigit = false := by
  cases gap with
  | nil =>
    obtain ⟨char, tail, folded, starts⟩ := spells.starts
    rw [List.nil_append, upperChars_append, folded]
    rintro _ ⟨⟩
    exact not_isDigit starts
  | cons char gap =>
    rcases between char List.mem_cons_self with space | rfl
    · rw [List.cons_append, upperChars_cons (upperFixed_space space)]
      rintro _ ⟨⟩
      by_contra number
      have visible := (visible_digit (Bool.of_not_eq_false number)).1
      cases visible.symm.trans space
    · rw [List.cons_append, upperChars_cons (upperFixed_of_lt (by decide))]
      rintro _ ⟨⟩
      rfl

private theorem scan_counts (first : Spells kind a) (second : Spells next b)
    (between : ∀ char ∈ gap.toList, isSpace char = true ∨ char = ';') :
    ∃ m n, ∃ marks : List Token, (∀ token ∈ marks, token.kind = .semicolon) ∧
      ∀ back : String, (∀ char ∈ back.toList.head?, char.isDigit = false) →
        scan (a ++ gap ++ b ++ back) = ⟨.keyword kind.keyword, kind.keyword.text⟩ :: ⟨.literal, m⟩ ::
          (marks ++ ⟨.keyword next.keyword, next.keyword.text⟩ :: ⟨.literal, n⟩ :: scan back) ∧
        scan (b ++ gap ++ a ++ back) = ⟨.keyword next.keyword, next.keyword.text⟩ :: ⟨.literal, n⟩ ::
          (marks ++ ⟨.keyword kind.keyword, kind.keyword.text⟩ :: ⟨.literal, m⟩ :: scan back) := by
  obtain ⟨m, one⟩ := first.tokens
  obtain ⟨n, two⟩ := second.tokens
  obtain ⟨marks, semicolons, marked⟩ := lex_between between
  refine ⟨m, n, marks, semicolons, fun back ends => ⟨?_, ?_⟩⟩
  · have whole := one (gap.toList ++ (b.toList ++ back.toList)) (second.undigited between)
    rw [marked, two _ (upperChars_undigited ends)] at whole
    simpa [scan, lex] using whole
  · have whole := two (gap.toList ++ (a.toList ++ back.toList)) (first.undigited between)
    rw [marked, one _ (upperChars_undigited ends)] at whole
    simpa [scan, lex] using whole

private theorem scan_append_clause {more : String} (first : Spells kind a) (second : Spells next b)
    (seam : scan (front ++ (a ++ more)) = scan front ++ scan (a ++ more)) (rest : String) :
    scan (front ++ (b ++ rest)) = scan front ++ scan (b ++ rest) := by
  obtain ⟨char, tail, folded, starts⟩ := first.starts
  obtain ⟨other, behind, same, startsToo⟩ := second.starts
  simp only [scan, String.toList_append, upperChars_append, folded, same, List.cons_append] at seam ⊢
  exact scanChars_append_word starts startsToo seam

private theorem parse_reterminated (changed : Reterminated text other) (parsed : parse text = .ok commands) :
    parse other = .ok commands := by
  obtain ⟨phrases, chained⟩ := parse_eq_ok.mp parsed
  cases changed with
  | @dropped front back opens =>
    by_cases zero : '\x00' ∈ front.toList
    · rw [String.append_assoc, scan_behind_zero zero] at phrases
      rw [parse_eq_ok, String.append_assoc, scan_behind_zero zero]
      exact ⟨phrases, chained⟩
    · rw [scan_marked zero] at phrases
      rw [parse_eq_ok, scan_spaced zero]
      exact ⟨phrases_flat phrases chained opens, chained⟩
  | @added front back seam opens bare unmarked =>
    have nonzero : '\x00' ∉ front.toList := by
      intro zero
      rw [scan_behind_zero zero] at seam
      rw [List.append_right_eq_self.mp seam.symm] at opens
      obtain ⟨_, ahead⟩ := opens
      exact Parser.not_ahead_nil ahead
    rw [seam] at phrases
    rw [parse_eq_ok, scan_marked nonzero]
    exact ⟨phrases_chained phrases chained opens bare unmarked, chained⟩

private theorem Chained.swap {earlier later : List Command} {first second : Clause}
    (chained : Chained (earlier ++ clause first :: clause second :: later)) (swaps : Swaps first.kind second.kind) :
    Chained (earlier ++ clause second :: clause first :: later) ∧ ∀ statements,
      Statement.ofCommands (earlier ++ clause first :: clause second :: later) = .ok statements →
        Statement.ofCommands (earlier ++ clause second :: clause first :: later) = .ok statements := by
  obtain ⟨before, head, front, parts, rest, rfl, same, chain, older, younger⟩ := chained.around rfl
  cases parts with
  | nil =>
    cases younger.plain_head (clause second) (by rw [← show _ = rest from same]; rfl)
  | cons part back =>
    cases same
    rw [List.map_append, List.map_cons, List.map_cons] at chain
    obtain ⟨⟨query, rfl⟩, other⟩ := swap_of_chain swaps chain
    have kinds : ∀ own, (front ++ first :: second :: back).filter (·.kind = own) =
        (front ++ second :: first :: back).filter (·.kind = own) := by
      intro own
      by_cases one : first.kind = own
      · have two : second.kind ≠ own := fun same => swaps.ne (one.trans same.symm)
        simp [List.filter_append, one, two]
      · simp [List.filter_append, List.filter_cons, one]
    constructor
    · have behind : (front ++ second :: first :: back).map Clause.kind ∈ (select query).chains := by simpa using other
      simpa using older.append (.cons behind younger)
    · intro statements read
      have whole : Statement.ofCommands (before ++ select query :: ((front ++ first :: second :: back).map clause ++ rest)) =
          .ok statements := by simpa using read
      simpa using Statement.ofCommands_reordered kinds whole

private theorem parse_exchanged (changed : Exchanged text other) (parsed : parse text = .ok commands) :
    ∃ earlier first second later statements, commands = earlier ++ clause first :: clause second :: later ∧
      Swaps first.kind second.kind ∧ parse other = .ok (earlier ++ clause second :: clause first :: later) ∧
      Statement.ofCommands commands = .ok statements ∧
      Statement.ofCommands (earlier ++ clause second :: clause first :: later) = .ok statements := by
  obtain ⟨phrases, chained⟩ := parse_eq_ok.mp parsed
  obtain ⟨statements, read⟩ := Statement.ofCommands_of_parse parsed
  cases changed with
  | @intro kind next front a gap b back swaps one two between seam ends =>
    obtain ⟨m, n, marks, semicolons, counts⟩ := scan_counts one two between
    have moved : scan (front ++ (b ++ gap ++ a ++ back)) = scan front ++ scan (b ++ gap ++ a ++ back) := by
      simp only [String.append_assoc] at seam ⊢
      exact scan_append_clause one two seam _
    rw [seam, (counts back ends).1] at phrases
    obtain ⟨earlier, first, second, later, rfl, kinds, swapped⟩ := phrases_swapped swaps semicolons phrases
    rw [← (counts back ends).2, ← moved] at swapped
    obtain ⟨chain, again⟩ := chained.swap kinds
    exact ⟨earlier, first, second, later, statements, rfl, kinds, parse_eq_ok.mpr ⟨swapped, chain⟩, read, again _ read⟩

private theorem step_alike (parsed : parse text = .ok commands) (changed : Reterminated text other ∨ Exchanged text other) :
    ∃ others, parse other = .ok others ∧ Statement.ofCommands others = Statement.ofCommands commands := by
  rcases changed with changed | changed
  · exact ⟨commands, parse_reterminated changed parsed, rfl⟩
  · obtain ⟨_, _, _, _, _, rfl, _, again, read, same⟩ := parse_exchanged changed parsed
    exact ⟨_, again, same.trans read.symm⟩

private theorem statements_alike (parsed : parse text = .ok commands) (respelled : Respelled text other) :
    ∃ others, parse other = .ok others ∧ Statement.ofCommands others = Statement.ofCommands commands := by
  induction respelled with
  | refl => exact ⟨commands, parsed, rfl⟩
  | tail _ changed ih =>
    obtain ⟨others, again, same⟩ := ih
    obtain ⟨last, behind, equal⟩ := step_alike again changed
    exact ⟨last, behind, equal.trans same⟩

end Command

namespace Engine
open Command

variable {text other : String} {commands : List Command}

/-- How a chain of clauses is spelled is of no account. A text stays parsed as the same sequence when a semicolon in front
of a clause is left out or put there; it is parsed as the same statements when LIMIT and OFFSET change places; and
whatever is made of it in these ways is executed alike on every catalog. -/
theorem respelled_alike (parsed : parse text = .ok commands) :
    (∀ other, Reterminated text other → parse other = .ok commands) ∧
    (∀ other, Exchanged text other → ∃ earlier first second later statements,
      commands = earlier ++ clause first :: clause second :: later ∧ Swaps first.kind second.kind ∧
        parse other = .ok (earlier ++ clause second :: clause first :: later) ∧
        Statement.ofCommands commands = .ok statements ∧
        Statement.ofCommands (earlier ++ clause second :: clause first :: later) = .ok statements) ∧
    ∀ other, Respelled text other → ∀ catalog, execute other catalog = execute text catalog := by
  refine ⟨fun other changed => parse_reterminated changed parsed, fun other changed => parse_exchanged changed parsed,
    fun other respelled catalog => ?_⟩
  obtain ⟨others, again, same⟩ := statements_alike parsed respelled
  rw [execute_parsed parsed, execute_parsed again, evaluate, evaluate, same]

/-- A quoted semicolon, and a keyword that touches the number in front of it. -/
theorem respelled_alike_quoted :
    let opening := "SELECT * FROM t"
    let filter := "WHERE a EQUAL ';' OR a EQUAL 5"
    let limit := "Limit" ++ " " ++ "3"
    let offset := "offset" ++ " " ++ "2"
    let text := opening ++ ";" ++ (filter ++ (limit ++ " ;" ++ offset ++ ";"))
    let other := opening ++ " " ++ filter ++ ";" ++ (offset ++ " ;" ++ limit ++ ";")
    let condition : Condition := .or (.compare "A" .equal ⟨.ident, ";"⟩) (.compare "A" .equal ⟨.literal, "5"⟩)
    parse text = .ok [.select ⟨"T", .all, false, none⟩, .clause (.filter condition), .clause (.limit 3), .clause (.offset 2)] ∧
      ∀ catalog, execute other catalog = execute text catalog := by
  intro opening filter limit offset text other condition
  let window := limit ++ " ;" ++ offset ++ ";"
  have parsed : parse text = .ok [.select ⟨"T", .all, false, none⟩, .clause (.filter condition), .clause (.limit 3),
      .clause (.offset 2)] := by decide +kernel
  have dropped : Reterminated text (opening ++ " " ++ (filter ++ window)) :=
    .dropped ⟨.filter, "WHERE", (scan (filter ++ window)).tail, by decide +kernel⟩
  have added : Reterminated (opening ++ " " ++ (filter ++ window)) (opening ++ " " ++ filter ++ ";" ++ window) := by
    have number : (scan window).tail.head?.map Token.kind = some .literal := by decide +kernel
    rw [← String.append_assoc]
    refine .added (by decide +kernel) ⟨.limit, "LIMIT", (scan window).tail, by decide +kernel⟩ ?_ (by decide +kernel)
    rintro ⟨_, literal, rest, shape⟩
    rw [shape] at number
    cases number
  have exchanged : Exchanged (opening ++ " " ++ filter ++ ";" ++ window) other := by
    have count : Spells .limit limit := .intro (by decide +kernel) (by simp) (by simp [isSpace]) (digits_repr 3)
    have skip : Spells .offset offset := .intro (by decide +kernel) (by simp) (by simp [isSpace]) (digits_repr 2)
    exact .intro .limit count skip (by simp [isSpace]) (by decide +kernel) (by simp)
  refine ⟨parsed, (respelled_alike parsed).2.2 other ?_⟩
  exact ((Relation.ReflTransGen.single (.inl dropped)).tail (.inl added)).tail (.inr exchanged)

end Engine

end MiniSql

import MiniSql.Proofs.Composition
import MiniSql.Proofs.ScriptLines

/-! A script evaluated as one text and line by line. Both come to the same as long as no line ends in a semicolon in
the middle of a statement: inside a quoted value, or in front of a clause. -/

namespace MiniSql.Script
open Session Token Text Grammar

/-- Nothing goes on from the first text into the second: no quoted value and no statement. Behind a zero character
there must not be any token that only the second text by itself would have. -/
structure Parted (front back : String) : Prop where
  ended : '\x00' ∈ front.toList → scan back = []
  value : ¬ Ahead .apostrophe (scan back)
  clause : ∀ kind : ClauseKind, ¬ Ahead (.keyword kind.keyword) (scan back)

instance (kind : TokenKind) (tokens : List Token) : Decidable (Ahead kind tokens) :=
  match tokens with
  | [] => .isFalse Parser.not_ahead_nil
  | _ :: _ => decidable_of_iff _ Parser.ahead_cons.symm

instance (front back : String) : Decidable (Parted front back) :=
  decidable_of_iff (('\x00' ∈ front.toList → scan back = []) ∧ ¬ Ahead .apostrophe (scan back) ∧
      ∀ kind ∈ [ClauseKind.filter, .orderBy, .limit, .offset], ¬ Ahead (.keyword kind.keyword) (scan back))
    ⟨fun ⟨ended, value, clause⟩ => ⟨ended, value, fun kind => clause kind (by cases kind <;> decide)⟩,
      fun ⟨ended, value, clause⟩ => ⟨ended, value, fun kind _ => clause kind⟩⟩

variable {front back : String} {commands : List Command} {catalog : Catalog}

private theorem trimEnd_split (text : List Char) : ∃ blanks, text = trimEnd text ++ blanks ∧ ∀ char ∈ blanks, Text.isBlank char = true := by
  refine ⟨(text.reverse.takeWhile Text.isBlank).reverse, ?_, fun char member => ?_⟩
  · rw [trimEnd, ← List.reverse_append, List.takeWhile_append_dropWhile, List.reverse_reverse]
  · exact List.mem_takeWhile_imp (List.mem_reverse.mp member)

theorem endsStatement_iff : endsStatement front = true ↔
    ∃ body blanks, front.toList = body ++ ';' :: blanks ∧ ∀ char ∈ blanks, Text.isBlank char = true := by
  constructor
  · intro ends
    obtain ⟨blanks, whole, blank⟩ := trimEnd_split front.toList
    obtain ⟨body, last⟩ := List.getLast?_eq_some_iff.mp (eq_of_beq ends)
    refine ⟨body, blanks, ?_, blank⟩
    rw [whole, last, List.append_assoc, List.singleton_append]
  · intro ⟨body, blanks, whole, blank⟩
    have trimmed : trimEnd front.toList = body ++ [';'] := by
      have visible : ¬ Text.isBlank ';' = true := by decide
      rw [trimEnd, whole, List.reverse_append, List.reverse_cons, List.append_assoc,
        List.dropWhile_append_of_pos fun char member => blank char (List.mem_reverse.mp member), List.singleton_append,
        List.dropWhile_cons_of_neg visible, List.reverse_cons, List.reverse_reverse]
    rw [endsStatement, trimmed, List.getLast?_concat]
    rfl

private theorem endsStatement_append (ends : endsStatement back = true) : endsStatement (front ++ back) = true := by
  obtain ⟨body, blanks, whole, blank⟩ := endsStatement_iff.mp ends
  refine endsStatement_iff.mpr ⟨front.toList ++ body, blanks, ?_, blank⟩
  rw [String.toList_append, whole, List.append_assoc]

private theorem upperChars_blank {blanks : List Char} (blank : ∀ char ∈ blanks, Text.isBlank char = true) : upperChars blanks = blanks :=
  upperChars_of_fixed fun char member => (blank_cases (blank char member)).2.2

private theorem scan_of_ends (ends : endsStatement front = true) (nonzero : '\x00' ∉ front.toList) :
    (∃ tokens illegal, scan front = tokens ++ symbol ';' :: illegal ∧ ∀ token ∈ illegal, token.kind = .illegal) ∧
      ∀ more, Apart (upperChars front.toList) more := by
  obtain ⟨body, blanks, whole, blank⟩ := endsStatement_iff.mp ends
  have semicolon : UpperFixed ';' := upperFixed_of_lt (by decide)
  have folded : upperChars front.toList = upperChars body ++ ';' :: blanks := by
    rw [whole, upperChars_append, upperChars_cons semicolon, upperChars_blank blank]
  have separate : Separate ';' := ⟨by decide, by decide, by decide, by decide +kernel⟩
  have plain : ∀ char ∈ ';' :: blanks, continuesWord char = false :=
    List.forall_mem_cons.mpr ⟨by decide +kernel, fun char member => (blank_cases (blank char member)).1⟩
  have stops : Stops (';' :: blanks) := fun char head => plain char (List.mem_of_mem_head? head)
  constructor
  · refine ⟨scanChars (upperChars body), scanChars blanks, ?_, scanChars_blank blank⟩
    have apart : '\x00' ∉ upperChars body := by
      intro zero
      exact nonzero (by rw [whole]; exact List.mem_append_left _ (zero_mem_upperChars.mp zero))
    rw [scan, folded, scanChars_append apart (.inr stops), scanChars_of_some (next?_symbol separate)]
  · intro more
    rw [folded, apart_append (List.cons_ne_nil _ _)]
    exact .inl fun char last => plain char (List.mem_of_getLast? last)

private theorem not_phrases_illegal {tokens : List Token} (phrases : Phrases tokens commands [])
    (illegal : ∀ token ∈ tokens.head?, token.kind = .illegal) : tokens = [] ∧ commands = [] := by
  cases phrases with
  | nil => exact ⟨rfl, rfl⟩
  | cons first =>
    obtain ⟨literal, rest, rfl⟩ := Parser.phrase_ahead first
    cases illegal _ rfl

private theorem no_illegal {illegal tokens : List Token} (phrases : Phrases (illegal ++ tokens) commands [])
    (all : ∀ token ∈ illegal, token.kind = .illegal) : illegal = [] := by
  cases illegal with
  | nil => rfl
  | cons token illegal =>
    have head : ∀ other ∈ (token :: illegal ++ tokens).head?, other.kind = .illegal := by
      rintro other ⟨⟩
      exact all _ List.mem_cons_self
    cases (not_phrases_illegal phrases head).1

private theorem starts_no_clause {tokens : List Token} (phrases : Phrases tokens commands [])
    (clause : ∀ kind : ClauseKind, ¬ Ahead (.keyword kind.keyword) tokens) :
    ∀ command ∈ commands.head?, command.clause? = none := by
  intro command head
  cases commands with
  | nil => cases head
  | cons next commands =>
    obtain ⟨middle, opening, _⟩ := phrases_cons.mp phrases
    cases head
    refine Option.eq_none_iff_forall_ne_some.mpr fun part shape => ?_
    obtain rfl := Command.clause?_eq_some.mp shape
    exact clause part.kind (Parser.phrase_ahead opening)

private theorem parse_of_no_token (none : scan back = []) : Command.parse back = .ok [] := by
  rw [Command.parse_eq_ok, none]
  exact ⟨.nil, .nil⟩

/-- A text that parses can be cut behind a semicolon where nothing goes on. -/
theorem parse_cut (parsed : Command.parse (front ++ back) = .ok commands) (ends : endsStatement front = true)
    (parted : Parted front back) :
    ∃ earlier later, commands = earlier ++ later ∧ Command.parse front = .ok earlier ∧ Command.parse back = .ok later := by
  by_cases zero : '\x00' ∈ front.toList
  · have same : scan (front ++ back) = scan front := by
      rw [scan, String.toList_append, ← lex, lex_append_of_zero zero, lex, ← scan]
    refine ⟨commands, [], (List.append_nil _).symm, ?_, parse_of_no_token (parted.ended zero)⟩
    rwa [Command.parse, ← same]
  · obtain ⟨⟨tokens, illegal, own, blank⟩, apart⟩ := scan_of_ends ends zero
    have both : scan (front ++ back) = tokens ++ symbol ';' :: (illegal ++ scan back) := by
      have folded : '\x00' ∉ upperChars front.toList := fun member => zero (zero_mem_upperChars.mp member)
      rw [scan, String.toList_append, upperChars_append, scanChars_append folded (apart _), ← scan, ← scan, own,
        List.append_assoc, List.cons_append]
    obtain ⟨phrases, chained⟩ := Command.parse_eq_ok.mp parsed
    rw [both] at phrases
    have bare : ¬ Ahead .apostrophe (illegal ++ scan back) := by
      cases illegal with
      | nil => exact parted.value
      | cons token illegal =>
        rintro ⟨literal, rest, shape⟩
        cases shape
        cases blank _ List.mem_cons_self
    obtain ⟨earlier, later, rfl, first, second⟩ := phrases_split phrases rfl bare
    obtain rfl := no_illegal second blank
    obtain ⟨before, behind⟩ := chained.split (starts_no_clause second parted.clause)
    exact ⟨earlier, later, rfl, Command.parse_eq_ok.mpr ⟨own ▸ first, before⟩, Command.parse_eq_ok.mpr ⟨second, behind⟩⟩

private theorem report_of_success {evaluation : Evaluation} (succeeded : evaluation.error = none) : report evaluation = evaluation.output := by
  rw [report, succeeded, String.append_empty]

private theorem evaluate_cut {earlier later : List Command} (parsed : Command.parse front = .ok earlier)
    (behind : Command.parse back = .ok later) (succeeded : (Engine.evaluate (earlier ++ later) catalog).1.error = none) :
    let first := Engine.evaluate earlier catalog
    let second := Engine.evaluate later first.2
    first.1.error = none ∧ second.1.error = none ∧
      (Engine.evaluate (earlier ++ later) catalog).1.output = first.1.output ++ second.1.output ∧
      (Engine.evaluate (earlier ++ later) catalog).2 = second.2 := by
  obtain ⟨statements, own⟩ := Statement.ofCommands_of_parse parsed
  obtain ⟨more, other⟩ := Statement.ofCommands_of_parse behind
  rw [Engine.evaluate_append own other] at succeeded ⊢
  obtain ⟨first, second, outcomes, after⟩ := Engine.andThen_succeeded succeeded
  refine ⟨first, second, ?_, after⟩
  rw [Evaluation.output, outcomes, List.map_append, String.join_append, Evaluation.output, Evaluation.output]

private theorem blank_parsed (blank : isBlank back = true) (parsed : Command.parse back = .ok commands) : commands = [] := by
  have blanks : ∀ char ∈ back.toList, Text.isBlank char = true := List.all_eq_true.mp blank
  have illegal := scanChars_blank blanks
  rw [← upperChars_blank blanks, ← scan] at illegal
  exact (not_phrases_illegal (Command.parse_eq_ok.mp parsed).1 fun token head => illegal token (List.mem_of_mem_head? head)).2

/-- Behind the lines that wait, every line that ends in a semicolon ends a statement. -/
def CutsCleanly (waiting : String) (lines : List String) : Prop :=
  ∀ front back, lines = front ++ back → endsStatement (waiting ++ joined front) = true →
    Parted (waiting ++ joined front) (joined back)

instance (waiting : String) (lines : List String) : Decidable (CutsCleanly waiting lines) :=
  decidable_of_iff (∀ count ∈ List.range (lines.length + 1), endsStatement (waiting ++ joined (lines.take count)) = true →
      Parted (waiting ++ joined (lines.take count)) (joined (lines.drop count))) <| by
    constructor
    · intro each front back whole
      have inside : front.length ∈ List.range (lines.length + 1) := by
        rw [List.mem_range, whole, List.length_append]
        omega
      have here := each front.length inside
      rwa [whole, List.take_left, List.drop_left] at here
    · intro clean count _
      exact clean _ _ (List.take_append_drop count lines).symm

variable {waiting line output text : String} {lines : List String}

private theorem joined_behind (waiting line : String) (lines : List String) :
    waiting ++ joined (line :: lines) = waiting ++ line ++ "\n" ++ joined lines := by
  rw [joined_cons, String.append_assoc, String.append_assoc, String.append_assoc]

private theorem CutsCleanly.wait (clean : CutsCleanly waiting (line :: lines)) : CutsCleanly (waiting ++ line ++ "\n") lines := by
  intro front back whole ends
  rw [← joined_behind] at ends ⊢
  exact clean (line :: front) back (by rw [whole, List.cons_append]) ends

private theorem CutsCleanly.restart (clean : CutsCleanly waiting (line :: lines)) : CutsCleanly "" lines := by
  intro front back whole ends
  rw [String.empty_append] at ends ⊢
  have longer : endsStatement (waiting ++ joined (line :: front)) = true := by
    rw [joined_cons, ← String.append_assoc]
    exact endsStatement_append ends
  obtain ⟨ended, value, clause⟩ := clean (line :: front) back (by rw [whole, List.cons_append]) longer
  refine ⟨fun zero => ended ?_, value, clause⟩
  rw [joined_cons, String.toList_append, String.toList_append]
  exact List.mem_append_right _ (List.mem_append_right _ zero)

private theorem run_texts (plain : ∀ line ∈ lines, isExit line = false) (session : Session) :
    run session (lines.map fun line => encode line.toList) = (none, (lines.foldl addLine session).finish) := by
  induction lines generalizing session with
  | nil => rfl
  | cons line lines ih =>
    obtain ⟨stays, others⟩ := List.forall_mem_cons.mp plain
    have read : decode (encode line.toList) = .ok line := decode_eq_ok.mpr rfl
    have remains : (isBlank session.pending && isExit line) = false := by rw [stays, Bool.and_false]
    rw [List.map_cons, session.run_taken read remains]
    exact ih others (session.addLine line)

private theorem addLines_agree (clean : CutsCleanly waiting lines) (parsed : Command.parse (waiting ++ joined lines) = .ok commands)
    (succeeded : (Engine.evaluate commands catalog).1.error = none) (written : String) :
    (lines.foldl addLine ⟨catalog, waiting, written⟩).finish.written =
        written ++ (Engine.evaluate commands catalog).1.output ∧
      (lines.foldl addLine ⟨catalog, waiting, written⟩).finish.catalog = (Engine.evaluate commands catalog).2 := by
  induction lines generalizing waiting commands catalog written with
  | nil =>
    have own : Command.parse waiting = .ok commands := by simpa [joined] using parsed
    by_cases blank : isBlank waiting = true
    · obtain rfl := blank_parsed blank own
      rw [List.foldl_nil, finish, if_pos blank]
      exact ⟨String.append_empty.symm, rfl⟩
    · rw [List.foldl_nil, finish, if_neg blank]
      simp only [flush, Engine.execute_parsed own, report_of_success succeeded, and_self]
  | cons line lines ih =>
    rw [joined_behind] at parsed
    rw [List.foldl_cons, addLine]
    cases ends : endsStatement (waiting ++ line ++ "\n") with
    | false =>
      simp only [Bool.false_eq_true, if_false]
      exact ih clean.wait parsed succeeded written
    | true =>
      have parted : Parted (waiting ++ line ++ "\n") (joined lines) := by
        have here := clean.wait [] lines rfl
        rw [show joined [] = "" from rfl, String.append_empty] at here
        exact here ends
      obtain ⟨earlier, later, rfl, first, second⟩ := parse_cut parsed ends parted
      obtain ⟨ranFirst, ranSecond, output, after⟩ := evaluate_cut first second succeeded
      have rest : Command.parse ("" ++ joined lines) = .ok later := by rwa [String.empty_append]
      obtain ⟨wrote, left⟩ := ih clean.restart rest ranSecond (written ++ (Engine.evaluate earlier catalog).1.output)
      simp only [if_true, flush, Engine.execute_parsed first, report_of_success ranFirst]
      exact ⟨by rw [wrote, output, String.append_assoc], by rw [left, after]⟩

private theorem lex_lines {chars : List Char} {cut : List (List Char)} (lines : Lines '\n' '\r' chars cut) :
    lex chars = lex (cut.flatMap (· ++ ['\n'])) := by
  have feed (rest : List Char) : lex ('\n' :: rest) = lex rest := lex_skip (by decide)
  have ends (rest : List Char) : Breaks ('\n' :: rest) := breaks_space (by decide)
  induction lines with
  | nil => rfl
  | @last line =>
    have same : lex (line ++ []) = lex (line ++ ['\n']) := lex_behind .nil (ends []) (feed []).symm
    rwa [List.append_nil, ← List.flatMap_singleton (· ++ ['\n']) line] at same
  | @feed line rest cut plain bare _ ih =>
    rw [List.flatMap_cons, List.append_assoc, List.singleton_append]
    exact lex_behind (ends _) (ends _) (by rw [feed, feed, ih])
  | @returnFeed line rest cut plain _ ih =>
    rw [List.flatMap_cons, List.append_assoc, List.singleton_append]
    refine lex_behind (breaks_space (by decide)) (ends _) ?_
    rw [lex_skip (by decide), feed, feed, ih]

private theorem parse_joined (cut : Lines '\n' '\r' text.toList (lines.map String.toList)) :
    Command.parse (joined lines) = Command.parse text := by
  have same : scan (joined lines) = scan text := by
    rw [scan, toList_joined]
    exact (lex_lines cut).symm
  rw [Command.parse, same, Command.parse]

private theorem parsed_of_runWhole {bytes : List UInt8} (read : decode bytes = .ok text)
    (done : (runWhole bytes catalog).1 = .ok output) :
    ∃ commands, Command.parse text = .ok commands ∧ (Engine.evaluate commands catalog).1.error = none ∧
      (Engine.evaluate commands catalog).1.output = output ∧
      (runWhole bytes catalog).2 = (Engine.evaluate commands catalog).2 := by
  simp only [runWhole, read] at done ⊢
  cases parsed : Command.parse text with
  | error error =>
    simp only [Engine.execute, parsed] at done
    cases done
  | ok commands =>
    rw [Engine.execute_parsed parsed] at done ⊢
    refine ⟨commands, rfl, ?_⟩
    unfold Evaluation.toExcept at done
    split at done
    · cases done
    next succeeded =>
      cases done
      exact ⟨succeeded, rfl, rfl⟩

private theorem runLines_texts (cut : Lines '\n' '\r' text.toList (lines.map String.toList))
    (plain : ∀ line ∈ lines, isExit line = false) :
    runLines (encode text.toList) catalog = (none, (lines.foldl addLine (.start catalog)).finish) := by
  have same : lines.map (fun line => encode line.toList) = Script.lines (encode text.toList) := by
    rw [← lines_iff.mp (encode_lines cut), List.map_map]
    rfl
  rw [runLines, ← same, run_texts plain]

/-- Taken line by line, a script that succeeds as one text comes to the same. -/
def Agrees (bytes : List UInt8) (catalog : Catalog) : Prop :=
  ∀ output, (runWhole bytes catalog).1 = .ok output → (runLines bytes catalog).1 = none ∧
    (runLines bytes catalog).2.written = output ∧ (runLines bytes catalog).2.catalog = (runWhole bytes catalog).2

/-- Evaluated as one text and line by line a script comes to the same, if no line of it is an exit line and every line
that ends in a semicolon ends a statement. -/
theorem runs_alike {bytes : List UInt8} (read : decode bytes = .ok text)
    (cut : Lines '\n' '\r' text.toList (lines.map String.toList)) (plain : ∀ line ∈ lines, isExit line = false)
    (clean : CutsCleanly "" lines) : Agrees bytes catalog := by
  intro output done
  obtain ⟨commands, parsed, succeeded, rfl, after⟩ := parsed_of_runWhole read done
  have own : Command.parse ("" ++ joined lines) = .ok commands := by rw [String.empty_append, parse_joined cut, parsed]
  obtain ⟨wrote, left⟩ := addLines_agree clean own succeeded ""
  rw [after, decode_eq_ok.mp read, runLines_texts cut plain]
  exact ⟨rfl, wrote.trans String.empty_append, left⟩

/-- Each statement goes on behind the end of a line, the second in front of its clause. -/
theorem spread_statements_run_alike :
    let lines := ["create table t", "(a int);", "select a from t", "where a equal 1;"]
    let bytes := encode (joined lines).toList
    decode bytes = .ok (joined lines) ∧ Lines '\n' '\r' (joined lines).toList (lines.map String.toList) ∧
      (∀ line ∈ lines, isExit line = false) ∧ CutsCleanly "" lines ∧ Agrees bytes .empty := by
  intro lines bytes
  have read : decode bytes = .ok (joined lines) := decode_eq_ok.mpr rfl
  have cut : Lines '\n' '\r' (joined lines).toList (lines.map String.toList) := lines_joined (by decide +kernel)
  have plain : ∀ line ∈ lines, isExit line = false := by decide +kernel
  have clean : CutsCleanly "" lines := by decide +kernel
  exact ⟨read, cut, plain, clean, runs_alike read cut plain clean⟩

/-- Lines without an exit line among them that a new engine does not take as the text they make up. -/
structure Disagree (lines : List String) : Prop where
  read : decode (encode (joined lines).toList) = .ok (joined lines)
  cut : Lines '\n' '\r' (joined lines).toList (lines.map String.toList)
  plain : ∀ line ∈ lines, isExit line = false
  disagree : ¬ Agrees (encode (joined lines).toList) .empty

private theorem Disagree.of_written (whole : ∀ line ∈ lines, '\n' ∉ line.toList ∧ line.toList.getLast? ≠ some '\r')
    (plain : ∀ line ∈ lines, isExit line = false) (done : (Engine.execute (joined lines) .empty).1.toExcept = .ok output)
    (other : (lines.foldl addLine (.start .empty)).finish.written ≠ output) : Disagree lines := by
  have cut := lines_joined whole
  have read : decode (encode (joined lines).toList) = .ok (joined lines) := decode_eq_ok.mpr rfl
  refine ⟨read, cut, plain, fun agrees => ?_⟩
  have ran : (runWhole (encode (joined lines).toList) .empty).1 = .ok output := by
    rw [runWhole, read]
    exact done
  obtain ⟨_, wrote, _⟩ := agrees output ran
  rw [runLines_texts cut plain] at wrote
  exact other wrote

/-- A WHERE behind the semicolon of its UPDATE, a quoted semicolon at the end of a line, and a zero character. -/
theorem agreement_fails :
    Disagree ["create table t(a int);", "insert into t values(1);", "update t set a to 2;", "where false;"] ∧
      Disagree ["create table t(a text);", "insert into t values(';", "');"] ∧
      Disagree ["create table t(a int); \x00;", "insert into t values(1);"] := by
  have clause : (Engine.execute (joined ["create table t(a int);", "insert into t values(1);", "update t set a to 2;",
      "where false;"]) .empty).1.toExcept =
        .ok "Table 'T' has been created\nData Inserted\nData in 'T' has been updated\n" := by decide +kernel
  have quoted : (Engine.execute (joined ["create table t(a text);", "insert into t values(';", "');"]) .empty).1.toExcept =
      .ok "Table 'T' has been created\nData Inserted\n" := by decide +kernel
  have ended : (Engine.execute (joined ["create table t(a int); \x00;", "insert into t values(1);"]) .empty).1.toExcept =
      .ok "Table 'T' has been created\n" := by decide +kernel
  refine ⟨.of_written ?_ ?_ clause ?_, .of_written ?_ ?_ quoted ?_, .of_written ?_ ?_ ended ?_⟩ <;> decide +kernel

end MiniSql.Script

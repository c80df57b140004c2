import MiniSql.Command.Parse
import MiniSql.Proofs.PhraseReading

/-! Every part of the parser moves forward. Where a part succeeds it has taken tokens off the front, all of them in front
of the first end token, and all parts but the optional ones have taken at least one. States are any lists of tokens, also
lists with end tokens in them, as they come from a lexer that is asked again at the end of its text. -/

namespace MiniSql

namespace ParseState

def At (kind : TokenKind) (state : ParseState) : Prop := (state.rest.headD Token.eof).kind = kind

instance (kind : TokenKind) (state : ParseState) : Decidable (state.At kind) := inferInstanceAs (Decidable (_ = _))

/-- The number of tokens in front of the first end token. -/
def left (state : ParseState) : Nat := (state.rest.takeWhile fun token => token.kind ≠ .eof).length

/-- The second state has at least so many tokens less, and none of those it lacks is an end token. -/
def Moves (least : Nat) (before after : ParseState) : Prop :=
  ∃ taken, before.rest = taken ++ after.rest ∧ least ≤ taken.length ∧ ∀ token ∈ taken, token.kind ≠ .eof

variable {least more : Nat} {before middle after state : ParseState}

private theorem Moves.refl (state : ParseState) : Moves 0 state state := ⟨[], rfl, Nat.le_refl _, List.forall_mem_nil _⟩

private theorem Moves.weaken (moves : Moves least before after) (fewer : more ≤ least) : Moves more before after := by
  obtain ⟨taken, shape, enough, real⟩ := moves
  exact ⟨taken, shape, Nat.le_trans fewer enough, real⟩

private theorem Moves.trans (first : Moves least before middle) (second : Moves more middle after) :
    Moves (least + more) before after := by
  obtain ⟨taken, shape, enough, real⟩ := first
  obtain ⟨others, behind, enoughOthers, realOthers⟩ := second
  refine ⟨taken ++ others, by rw [shape, behind, List.append_assoc], ?_, List.forall_mem_append.mpr ⟨real, realOthers⟩⟩
  rw [List.length_append]
  exact Nat.add_le_add enough enoughOthers

theorem Moves.left (moves : Moves least before after) : after.left + least ≤ before.left := by
  obtain ⟨taken, shape, enough, real⟩ := moves
  have counted : before.left = taken.length + after.left := by
    rw [ParseState.left, shape, List.takeWhile_append_of_pos (by simpa using real), List.length_append, ParseState.left]
  omega

theorem left_le (state : ParseState) : state.left ≤ state.rest.length := (List.takeWhile_sublist _).length_le

theorem cons_of_real (real : ¬ state.At .eof) :
    ∃ token rest, state = ⟨token :: rest, state.connective⟩ ∧ token.kind ≠ .eof := by
  obtain ⟨_ | ⟨token, rest⟩, connective⟩ := state
  · exact absurd rfl real
  · exact ⟨token, rest, rfl, real⟩

theorem left_pos (real : ¬ state.At .eof) : 0 < state.left := by
  obtain ⟨token, rest, shape, plain⟩ := cons_of_real real
  rw [shape, ParseState.left, List.takeWhile_cons_of_pos (by simpa using plain)]
  exact Nat.succ_pos _

theorem not_at_eof {kind : TokenKind} (here : state.At kind) (real : kind ≠ .eof) : ¬ state.At .eof :=
  fun ended => real (here.symm.trans ended)

end ParseState

namespace Parser
open ParseState

/-- If the parser succeeds in this state, it has moved forward by at least so many tokens. -/
def AdvancesFrom (state : ParseState) (least : Nat) (parser : Parser α) : Prop :=
  ∀ value after, parser.run state = .ok (value, after) → Moves least state after

def Advances (least : Nat) (parser : Parser α) : Prop := ∀ state, AdvancesFrom state least parser

namespace AdvancesFrom
variable {state : ParseState} {least : Nat} {parser : Parser α}

private theorem weaken (advances : AdvancesFrom state least parser) : AdvancesFrom state 0 parser :=
  fun value after done => (advances value after done).weaken (Nat.zero_le _)

private theorem pure (value : α) : AdvancesFrom state 0 (pure value) := by
  intro result after done
  cases done
  exact .refl state

private theorem throw (error : Error) : AdvancesFrom state least (throw error : Parser α) := by
  intro result after done
  cases done

private theorem look {next : Token → Parser β} (rest : AdvancesFrom state least (next (state.rest.headD Token.eof))) :
    AdvancesFrom state least (current >>= next) := rest

private theorem get {next : ParseState → Parser β} (rest : AdvancesFrom state least (next state)) :
    AdvancesFrom state least (get >>= next) := rest

/-- In front of the end token a parser must not go on. -/
theorem advance {next : Unit → Parser β} (real : ¬ state.At .eof) (rest : Advances 0 (next ())) :
    AdvancesFrom state 1 (advance >>= next) := by
  intro value after done
  obtain ⟨token, tokens, shape, plain⟩ := cons_of_real real
  rw [shape] at done ⊢
  have taken : Moves 1 ⟨token :: tokens, state.connective⟩ ⟨tokens, state.connective⟩ :=
    ⟨[token], rfl, Nat.le_refl _, List.forall_mem_singleton.mpr plain⟩
  exact taken.trans (rest _ value after done)

private theorem check (result : Except Error α) {next : α → Parser β} (rest : ∀ value, Advances least (next value)) :
    AdvancesFrom state least (liftM result >>= next) := by
  cases result with
  | error error =>
    intro value after done
    cases done
  | ok value => exact rest value state

private theorem unexpected (expected : List TokenKind) : AdvancesFrom state least (unexpected expected : Parser α) := by
  refine .look ?_
  split <;> exact .throw _

end AdvancesFrom

variable {least : Nat} {kind : TokenKind}

namespace Advances
variable {parser : Parser α} {next : α → Parser β}

theorem weaken (advances : Advances least parser) : Advances 0 parser := fun state => (advances state).weaken

theorem pure (value : α) : Advances 0 (pure value) := fun _ => .pure value

private theorem throw (error : Error) : Advances least (throw error : Parser α) := fun _ => .throw error

theorem before (first : Advances least parser) (others : ∀ value, Advances 0 (next value)) :
    Advances least (parser >>= next) := by
  intro state result after done
  obtain ⟨value, middle, one, rest⟩ := run_bind_eq_ok.mp done
  exact (first state value middle one).trans (others value middle result after rest)

theorem also (first : Advances least parser) (others : ∀ value, Advances 0 (next value)) : Advances 0 (parser >>= next) :=
  first.weaken.before others

private theorem map (f : α → β) (advances : Advances least parser) : Advances least (f <$> parser) := by
  rw [map_eq_pure_bind]
  exact advances.before fun value => .pure (f value)

theorem connective {keyword : Option Keyword} {next : Unit → Parser β} (rest : Advances least (next ())) :
    Advances least ((modify fun state => { state with connective := keyword }) >>= next) :=
  fun state => rest { state with connective := keyword }

theorem check (result : Except Error α) (rest : ∀ value, Advances least (next value)) :
    Advances least (liftM result >>= next) := fun _ => .check result rest

end Advances

private theorem expect_advances (real : kind ≠ .eof) : Advances 1 (expect kind) := by
  refine fun state => .look ?_
  split
  next here => exact .advance (not_at_eof here real) (.pure _)
  next => exact .unexpected _

theorem skip_advances (real : kind ≠ .eof) : Advances 1 (discard (expect kind)) :=
  (expect_advances real).map _

theorem expectKeyword_advances (keyword : Keyword) : Advances 1 (expectKeyword keyword) := skip_advances (by simp)

private theorem accept_advances (real : kind ≠ .eof) : Advances 0 (accept kind) := by
  refine fun state => .look ?_
  split
  next here => exact .weaken (.advance (not_at_eof here real) (.pure true))
  next => exact .pure false

/-- Where an optional token is absent, what follows has to take one. -/
theorem Advances.accept {next : Bool → Parser α} (real : kind ≠ .eof) (present : Advances 0 (next true))
    (absent : Advances 1 (next false)) : Advances 1 (accept kind >>= next) := by
  rw [Parser.accept, bind_assoc]
  refine fun state => .look ?_
  split
  next here =>
    rw [bind_assoc]
    exact .advance (not_at_eof here real) present
  next => exact absent state

private theorem ident_advances : Advances 1 ident := (expect_advances (by decide)).before fun _ => .pure _

private theorem newName_advances : Advances 1 newName := by
  refine ident_advances.before fun name => ?_
  split
  · exact .throw _
  · exact .pure _

section Lists
variable {item : Parser α}

private theorem moreItems_advances (advances : Advances least item) (bound : Nat) : Advances 0 (moreItems item bound) := by
  induction bound with
  | zero => exact .pure []
  | succ bound ih =>
    refine (accept_advances (by decide)).also fun present => ?_
    split
    · exact advances.also fun value => ih.also fun values => .pure (value :: values)
    · exact .pure []

private theorem commaSeparated_advances (advances : Advances least item) : Advances least (commaSeparated item) := by
  refine advances.before fun value state => .get ?_
  exact (moreItems_advances advances _).also (fun values => .pure (value :: values)) state

private theorem listed_advances (advances : Advances least item) : Advances 1 (listed item) := by
  refine (skip_advances (by decide)).before fun _ state => .look ?_
  have closing (items : List α) : Advances 0 (do discard (expect .rightParen); return items) :=
    (skip_advances (by decide)).also fun _ => .pure items
  split
  · exact (Advances.pure []).before closing state
  · exact (commaSeparated_advances advances).also closing state

end Lists

private theorem value_advances : Advances 1 value := by
  refine fun state => .look ?_
  split
  next here => exact .advance (not_at_eof here (by decide)) (.pure _)
  next here => exact .advance (not_at_eof here (by decide)) (.pure _)
  next here =>
    refine .advance (not_at_eof here (by decide)) fun state => .look ?_
    split
    next => exact .unexpected _
    next inside =>
      -- Whatever stands between apostrophes is taken, but not the end.
      refine (AdvancesFrom.advance inside ?_).weaken
      refine (accept_advances (by decide)).also fun closed => ?_
      split
      · exact .pure _
      · exact .throw _
  next => exact .throw _
  next => exact .unexpected _

private theorem brokenCondition_advances : Advances least (brokenCondition : Parser α) := fun _ => .get (.throw _)

private theorem columnTest_advances (column : String) : Advances 1 (columnTest column) := by
  refine fun state => .look ?_
  split
  next comparison found =>
    have here : state.At (.keyword comparison.keyword) := comparison?_eq_some.mp found
    exact .advance (not_at_eof here (by simp)) (value_advances.also fun _ => .pure _)
  next membership _ found =>
    have here : state.At (.keyword membership.keyword) := membership?_eq_some.mp found
    refine .advance (not_at_eof here (by simp)) ?_
    refine (skip_advances (by decide)).also fun _ => ?_
    refine (commaSeparated_advances value_advances).also fun values => ?_
    exact (skip_advances (by decide)).also fun _ => .pure _
  next => exact .unexpected _

section Conditions
variable {inner : Parser Condition}

theorem operand_advances (advances : Advances least inner) : Advances 1 (operand inner) := by
  refine fun state => .look ?_
  split
  next here =>
    refine .advance (not_at_eof here (by decide)) (advances.also fun condition => ?_)
    refine (accept_advances (by decide)).also fun closed => ?_
    split
    · exact .pure condition
    · exact brokenCondition_advances
  next here => exact .advance (not_at_eof here (by decide)) (.pure _)
  next here => exact .advance (not_at_eof here (by decide)) (.pure _)
  next => exact ident_advances.before (fun column => (columnTest_advances column).weaken) state
  next => exact .throw _
  next => exact brokenCondition_advances state

variable (connective : Keyword) (combine : Condition → Condition → Condition)

private theorem moreOperands_advances (advances : Advances least inner) (bound : Nat) (first : Condition) :
    Advances 0 (moreOperands connective combine inner bound first) := by
  induction bound generalizing first with
  | zero => exact .pure first
  | succ bound ih =>
    refine (accept_advances (by simp)).also fun present => ?_
    split
    · exact .connective (advances.also fun second => ih (combine first second))
    · exact .pure first

theorem chain_advances (advances : Advances least inner) : Advances least (chain connective combine inner) :=
  advances.before fun first state => .get (moreOperands_advances connective combine advances _ first state)

theorem condition_advances (depth : Nat) : Advances 1 (condition depth) := by
  induction depth with
  | zero => exact brokenCondition_advances
  | succ depth ih => exact chain_advances _ _ (chain_advances _ _ (operand_advances ih))

/-- A condition, with room for as many parentheses as there are tokens. -/
def disjunction : Parser Condition := do condition ((← get).rest.length + 1)

private theorem disjunction_advances : Advances 1 disjunction := fun state => .get (condition_advances _ state)

end Conditions

private theorem commandEnd_advances : Advances 0 commandEnd := by
  refine (accept_advances (by decide)).also fun closed => ?_
  split
  · exact .pure _
  · refine fun state => .look ?_
    split
    · exact .pure _
    · exact .unexpected _

private theorem filter_eq : filter = (do
    expectKeyword .WHERE
    modify fun state => { state with connective := none }
    let condition ← disjunction
    commandEnd
    return .filter condition) := by
  simp only [filter, disjunction, bind_assoc]

private theorem filter_advances : Advances 1 filter := by
  rw [filter_eq]
  refine (expectKeyword_advances .WHERE).before fun _ => .connective ?_
  exact disjunction_advances.also fun condition => commandEnd_advances.also fun _ => .pure _

private theorem direction_advances : Advances 1 direction := by
  refine fun state => .look ?_
  split
  next here => exact .advance (not_at_eof here (by simp)) (.pure _)
  next here => exact .advance (not_at_eof here (by simp)) (.pure _)
  next => exact .unexpected _

private theorem sortKey_advances : Advances 1 sortKey := ident_advances.before fun _ => direction_advances.also fun _ => .pure _

private theorem orderBy_advances : Advances 1 orderBy := by
  refine (expectKeyword_advances .ORDER).before fun _ => (expectKeyword_advances .BY).also fun _ => ?_
  refine (commaSeparated_advances sortKey_advances).also fun keys => ?_
  exact commandEnd_advances.also fun _ => .pure _

private theorem count_advances (clause : String) : Advances 1 (count clause) := by
  refine fun state => .look ?_
  split
  next here =>
    refine .advance (not_at_eof here (by decide)) ?_
    split
    · split
      · exact .pure _
      · exact .throw _
    · exact .throw _
  next =>
    split
    · exact .throw _
    · exact .unexpected _

private theorem limit_advances : Advances 1 limit := by
  refine (expectKeyword_advances .LIMIT).before fun _ => (count_advances _).also fun number => ?_
  exact commandEnd_advances.also fun _ => .pure _

private theorem offset_advances : Advances 1 offset := by
  refine (expectKeyword_advances .OFFSET).before fun _ => (count_advances _).also fun number => ?_
  exact commandEnd_advances.also fun _ => .pure _

private theorem clause_advances (kind : ClauseKind) : Advances 1 (clause kind) := by
  cases kind with
  | filter => exact filter_advances
  | orderBy => exact orderBy_advances
  | limit => exact limit_advances
  | offset => exact offset_advances

private theorem columnDef_advances : Advances 1 columnDef := by
  refine newName_advances.before fun name state => .look ?_
  split
  next here => exact .weaken (.advance (not_at_eof here (by simp)) (.pure _))
  next here => exact .weaken (.advance (not_at_eof here (by simp)) (.pure _))
  next => exact .unexpected _

private theorem createTable_advances : Advances 1 createTable := by
  refine (expectKeyword_advances .CREATE).before fun _ => (expectKeyword_advances .TABLE).also fun _ => ?_
  refine newName_advances.also fun table => (listed_advances columnDef_advances).also fun columns => ?_
  exact (skip_advances (by decide)).also fun _ => .pure _

private theorem dropTable_advances : Advances 1 dropTable := by
  refine (expectKeyword_advances .DROP).before fun _ => (expectKeyword_advances .TABLE).also fun _ => ?_
  exact ident_advances.also fun table => (skip_advances (by decide)).also fun _ => .pure _

private theorem insert_advances : Advances 1 insert := by
  refine (expectKeyword_advances .INSERT).before fun _ => (expectKeyword_advances .INTO).also fun _ => ?_
  refine ident_advances.also fun table => (expectKeyword_advances .VALUES).also fun _ => ?_
  refine (listed_advances value_advances).also fun values => ?_
  exact (skip_advances (by decide)).also fun _ => .pure _

private theorem selectItem_advances : Advances 1 selectItem := by
  refine fun state => .look ?_
  split
  next function found =>
    have here : state.At (.keyword function.keyword) := aggregateFunction?_eq_some.mp found
    refine .advance (not_at_eof here (by simp)) ?_
    refine (skip_advances (by decide)).also fun _ => ident_advances.also fun column => ?_
    exact (skip_advances (by decide)).also fun _ => .pure _
  next =>
    split
    · exact ident_advances.before (fun _ => .pure _) state
    · exact .unexpected _

private theorem projection_advances : Advances 1 projection :=
  .accept (by decide) (.pure _) ((commaSeparated_advances selectItem_advances).before fun _ => .pure _)

private theorem joinOperands_advances (kind : JoinKind) : Advances 1 (joinOperands kind) := by
  refine (expectKeyword_advances .JOIN).before fun _ => ident_advances.also fun table => ?_
  refine (expectKeyword_advances .ON).also fun _ => ident_advances.also fun first => ?_
  exact (expectKeyword_advances .EQUAL).also fun _ => ident_advances.also fun _ => .pure _

private theorem join?_advances : Advances 0 join? := by
  refine fun state => .look ?_
  split
  next kind found =>
    have here : state.At (.keyword kind.keyword) := joinKind?_eq_some.mp found
    exact .weaken (.advance (not_at_eof here (by simp)) ((joinOperands_advances kind).also fun _ => .pure _))
  next =>
    split
    · exact (joinOperands_advances .inner).also (fun _ => .pure _) state
    · exact .pure _

private theorem select_advances : Advances 1 select := by
  refine (expectKeyword_advances .SELECT).before fun _ => (accept_advances (by simp)).also fun distinct => ?_
  refine projection_advances.also fun projection => (expectKeyword_advances .FROM).also fun _ => ?_
  refine ident_advances.also fun table => join?_advances.also fun join => ?_
  exact commandEnd_advances.also fun _ => .pure _

private theorem assignment_advances : Advances 1 assignment := by
  refine ident_advances.before fun column => (expectKeyword_advances .TO).also fun _ => ?_
  exact value_advances.also fun _ => .pure _

private theorem update_advances : Advances 1 update := by
  refine (expectKeyword_advances .UPDATE).before fun _ => ident_advances.also fun table => ?_
  refine (expectKeyword_advances .SET).also fun _ => (commaSeparated_advances assignment_advances).also fun assignments => ?_
  exact commandEnd_advances.also fun _ => .pure _

private theorem delete_advances : Advances 1 delete := by
  refine (expectKeyword_advances .DELETE).before fun _ => (expectKeyword_advances .FROM).also fun _ => ?_
  exact ident_advances.also fun table => commandEnd_advances.also fun _ => .pure _

private theorem clauseAfter_advances (before : List Command) (kind : ClauseKind) : Advances 1 (clauseAfter before kind) :=
  .check _ fun _ => (clause_advances kind).before fun _ => .pure _

theorem command_advances (before : List Command) : Advances 1 (command before) := by
  refine fun state => .look ?_
  split
  · exact createTable_advances state
  · exact dropTable_advances state
  · exact insert_advances state
  · exact select_advances state
  · exact update_advances state
  · exact delete_advances state
  · exact clauseAfter_advances before .filter state
  · exact clauseAfter_advances before .orderBy state
  · exact clauseAfter_advances before .limit state
  · exact clauseAfter_advances before .offset state
  · exact .throw _
  · exact .throw _

private theorem commands_advances (bound : Nat) (before : List Command) : Advances 0 (commands bound before) := by
  induction bound generalizing before with
  | zero => exact .check _ fun _ => .pure _
  | succ bound ih =>
    refine fun state => .get ?_
    split
    · exact .check _ fun _ => .pure _
    · exact (command_advances before).also (fun next => .check _ fun _ => ih (next :: before)) state

/-- The parts that the parser is made of, each with the number of tokens that it takes at least where it succeeds.
Parts that are made of others may be made of any parts. -/
inductive Part : {α : Type} → Nat → Parser α → Prop
  | expect {kind : TokenKind} (real : kind ≠ .eof) : Part 1 (expect kind)
  | accept {kind : TokenKind} (real : kind ≠ .eof) : Part 0 (accept kind)
  | ident : Part 1 ident
  | newName : Part 1 newName
  | moreItems {least : Nat} {item : Parser α} (one : Part least item) (bound : Nat) : Part 0 (moreItems item bound)
  | commaSeparated {least : Nat} {item : Parser α} (one : Part least item) : Part least (commaSeparated item)
  | listed {least : Nat} {item : Parser α} (one : Part least item) : Part 1 (listed item)
  | value : Part 1 value
  | columnTest (column : String) : Part 1 (columnTest column)
  | operand {least : Nat} {inner : Parser Condition} (within : Part least inner) : Part 1 (operand inner)
  | moreOperands {least : Nat} {inner : Parser Condition} (connective : Keyword)
    (combine : Condition → Condition → Condition) (one : Part least inner) (bound : Nat) (first : Condition) :
    Part 0 (moreOperands connective combine inner bound first)
  | chain {least : Nat} {inner : Parser Condition} (connective : Keyword) (combine : Condition → Condition → Condition)
    (one : Part least inner) : Part least (chain connective combine inner)
  | condition (depth : Nat) : Part 1 (condition depth)
  | disjunction : Part 1 disjunction
  | commandEnd : Part 0 commandEnd
  | direction : Part 1 direction
  | sortKey : Part 1 sortKey
  | count (clause : String) : Part 1 (count clause)
  | clause (kind : ClauseKind) : Part 1 (clause kind)
  | columnDef : Part 1 columnDef
  | createTable : Part 1 createTable
  | dropTable : Part 1 dropTable
  | insert : Part 1 insert
  | selectItem : Part 1 selectItem
  | projection : Part 1 projection
  | joinOperands (kind : JoinKind) : Part 1 (joinOperands kind)
  | join? : Part 0 join?
  | select : Part 1 select
  | assignment : Part 1 assignment
  | update : Part 1 update
  | delete : Part 1 delete
  | clauseAfter (before : List Command) (kind : ClauseKind) : Part 1 (clauseAfter before kind)
  | command (before : List Command) : Part 1 (command before)
  | commands (bound : Nat) (before : List Command) : Part 0 (commands bound before)

theorem Part.advances {parser : Parser α} (part : Part least parser) : Advances least parser := by
  induction part with
  | expect real => exact expect_advances real
  | accept real => exact accept_advances real
  | ident => exact ident_advances
  | newName => exact newName_advances
  | moreItems _ bound ih => exact moreItems_advances ih bound
  | commaSeparated _ ih => exact commaSeparated_advances ih
  | listed _ ih => exact listed_advances ih
  | value => exact value_advances
  | columnTest column => exact columnTest_advances column
  | operand _ ih => exact operand_advances ih
  | moreOperands connective combine _ bound first ih => exact moreOperands_advances connective combine ih bound first
  | chain connective combine _ ih => exact chain_advances connective combine ih
  | condition depth => exact condition_advances depth
  | disjunction => exact disjunction_advances
  | commandEnd => exact commandEnd_advances
  | direction => exact direction_advances
  | sortKey => exact sortKey_advances
  | count clause => exact count_advances clause
  | clause kind => exact clause_advances kind
  | columnDef => exact columnDef_advances
  | createTable => exact createTable_advances
  | dropTable => exact dropTable_advances
  | insert => exact insert_advances
  | selectItem => exact selectItem_advances
  | projection => exact projection_advances
  | joinOperands kind => exact joinOperands_advances kind
  | join? => exact join?_advances
  | select => exact select_advances
  | assignment => exact assignment_advances
  | update => exact update_advances
  | delete => exact delete_advances
  | clauseAfter before kind => exact clauseAfter_advances before kind
  | command before => exact command_advances before
  | commands bound before => exact commands_advances bound before

end Parser

end MiniSql

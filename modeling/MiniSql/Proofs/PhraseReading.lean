import MiniSql.Command.Parse
import MiniSql.Proofs.ConditionReading

/-! Each command is read as its rule of the grammar has it. Where a parser decides by the next token,
the rules that begin with another token are ruled out. -/

namespace MiniSql.Parser
open Grammar

variable {input rest : List Token}

private theorem mem_endKinds {kind : TokenKind} :
    kind ∈ endKinds ↔ kind = .semicolon ∨ ∃ clause : ClauseKind, kind = .keyword clause.keyword := by
  simp only [endKinds, clauseKinds, List.map_cons, List.map_nil, List.mem_cons, List.not_mem_nil, or_false]
  constructor
  · intro holds
    rcases holds with same | same | same | same | same
    · exact .inl same
    · exact .inr ⟨.filter, same⟩
    · exact .inr ⟨.orderBy, same⟩
    · exact .inr ⟨.limit, same⟩
    · exact .inr ⟨.offset, same⟩
  · intro holds
    rcases holds with same | ⟨clause, same⟩
    · exact .inl same
    · cases clause <;> simp [same, ClauseKind.keyword]

theorem reads_commandEnd : Reads commandEnd fun input _ rest => End input rest := by
  intro input
  refine .accept (by decide) (fun literal rest shape => ?_) fun absent => .look ?_
  · subst shape
    refine .one fun _ rest => ⟨fun closed => ?_, ?_⟩
    · cases closed with
      | semicolon => exact ⟨rfl, rfl⟩
      | clause ahead => exact absurd (ahead_cons.mp ahead) (by simp)
    · intro ⟨_, rfl⟩
      exact .semicolon
  split
  next member =>
    rcases mem_endKinds.mp member with semicolon | ⟨kind, same⟩
    · exact absurd ((ahead_iff (by decide)).mp semicolon) absent
    refine .one fun _ rest => ⟨fun closed => ?_, ?_⟩
    · cases closed with
      | semicolon => exact absurd ⟨_, _, rfl⟩ absent
      | clause => exact ⟨rfl, rfl⟩
    · intro ⟨_, rfl⟩
      exact .clause ((ahead_iff (by simp)).mp same)
  next other =>
    refine .none (.unexpected _) fun _ rest closed => other (mem_endKinds.mpr ?_)
    cases closed with
    | semicolon => exact .inl rfl
    | clause ahead => exact .inr ⟨_, (ahead_iff (by simp)).mpr ahead⟩

theorem end_not_ahead (closed : End input rest) {kind : TokenKind} (other : kind ∉ endKinds) : ¬ Ahead kind input := by
  intro ahead
  obtain ⟨literal, tokens, rfl⟩ := ahead
  refine other (mem_endKinds.mpr ?_)
  cases closed with
  | semicolon => exact .inl rfl
  | clause clause => exact .inr ⟨_, ahead_cons.mp clause⟩

theorem reads_newName : Reads newName fun input name rest => input = ⟨.ident, name⟩ :: rest ∧ '.' ∉ name.toList := by
  intro input
  refine .step (reads_ident input) ?_ fun absent name rest result => absent _ _ result.1
  intro name middle rfl
  split
  next period =>
    refine .none (.throw _) ?_
    intro _ _ ⟨shape, plain⟩
    cases shape
    exact plain period
  next plain =>
    refine .one fun result rest => ⟨?_, ?_⟩
    · intro ⟨shape, _⟩
      cases shape
      exact ⟨rfl, rfl⟩
    · intro ⟨rfl, rfl⟩
      exact ⟨rfl, plain⟩

theorem reads_columnDef : Reads columnDef Declaration := by
  intro input
  refine .step (reads_newName input) ?_ fun absent column rest declaration => ?_
  · intro name middle holds
    obtain ⟨rfl, plain⟩ := holds
    obtain _ | ⟨token, middle⟩ := middle
    · exact .look_nil (.none (.unexpected _) (fun _ _ impossible => nomatch impossible))
    refine .look_cons ?_
    split
    next int =>
      refine .advance (.one fun column rest => ⟨fun declaration => ?_, ?_⟩)
      · cases declaration with
        | @intro _ _ _ datatype _ type =>
          obtain rfl : datatype = .int := by
            cases datatype with
            | int => rfl
            | text => cases int.symm.trans type
          exact ⟨rfl, rfl⟩
      · intro holds
        obtain ⟨rfl, rfl⟩ := holds
        exact .intro plain int
    next text =>
      refine .advance (.one fun column rest => ⟨fun declaration => ?_, ?_⟩)
      · cases declaration with
        | @intro _ _ _ datatype _ type =>
          obtain rfl : datatype = .text := by
            cases datatype with
            | int => cases text.symm.trans type
            | text => rfl
          exact ⟨rfl, rfl⟩
      · intro holds
        obtain ⟨rfl, rfl⟩ := holds
        exact .intro plain text
    next noInt noText =>
      refine .none (.unexpected _) fun column rest declaration => ?_
      cases declaration with
      | @intro _ _ _ datatype _ type => cases datatype <;> simp [type, Datatype.keyword] at noInt noText
  · cases declaration with
    | intro plain => exact absent _ _ ⟨rfl, plain⟩

theorem reads_createTable : Reads createTable (Phrase .CREATE) := by
  have columns := reads_listed reads_columnDef declaration_consumes (by
    intro _ _ _ holds
    cases holds
    simp [ahead_cons])
  unfold createTable
  refine ((reads_expectKeyword .CREATE).bind fun _ => (reads_expectKeyword .TABLE).bind fun _ => reads_newName.bind fun table =>
    columns.bind fun columns => (reads_skip (by decide)).bind fun _ => .pure _).congr fun input command rest => ?_
  constructor
  · intro holds
    obtain ⟨_, _, ⟨_, rfl⟩, _, _, ⟨_, rfl⟩, table, _, ⟨rfl, plain⟩, columns, _, listed, _, _, ⟨_, rfl⟩, rfl, rfl⟩ := holds
    exact .createTable plain listed
  · intro phrase
    cases phrase with
    | createTable plain listed =>
      exact ⟨(), _, ⟨_, rfl⟩, (), _, ⟨_, rfl⟩, _, _, ⟨rfl, plain⟩, _, _, listed, (), _, ⟨_, rfl⟩, rfl, rfl⟩

theorem reads_dropTable : Reads dropTable (Phrase .DROP) := by
  unfold dropTable
  refine ((reads_expectKeyword .DROP).bind fun _ => (reads_expectKeyword .TABLE).bind fun _ => reads_ident.bind fun table =>
    (reads_skip (by decide)).bind fun _ => .pure _).congr fun input command rest => ?_
  constructor
  · intro holds
    obtain ⟨_, _, ⟨_, rfl⟩, _, _, ⟨_, rfl⟩, table, _, rfl, _, _, ⟨_, rfl⟩, rfl, rfl⟩ := holds
    exact .dropTable
  · intro phrase
    cases phrase with
    | dropTable => exact ⟨(), _, ⟨_, rfl⟩, (), _, ⟨_, rfl⟩, _, _, rfl, (), _, ⟨_, rfl⟩, rfl, rfl⟩

theorem reads_insert : Reads insert (Phrase .INSERT) := by
  have values := reads_listed reads_value constant_consumes fun _ _ _ => constant_not_close
  unfold insert
  refine ((reads_expectKeyword .INSERT).bind fun _ => (reads_expectKeyword .INTO).bind fun _ => reads_ident.bind fun table =>
    (reads_expectKeyword .VALUES).bind fun _ => values.bind fun values => (reads_skip (by decide)).bind fun _ =>
      .pure _).congr fun input command rest => ?_
  constructor
  · intro holds
    obtain ⟨_, _, ⟨_, rfl⟩, _, _, ⟨_, rfl⟩, table, _, rfl, _, _, ⟨_, rfl⟩, values, _, listed, _, _, ⟨_, rfl⟩, rfl, rfl⟩ := holds
    exact .insert listed
  · intro phrase
    cases phrase with
    | insert listed =>
      exact ⟨(), _, ⟨_, rfl⟩, (), _, ⟨_, rfl⟩, _, _, rfl, (), _, ⟨_, rfl⟩, _, _, listed, (), _, ⟨_, rfl⟩, rfl, rfl⟩

theorem aggregateFunction?_eq_some {kind : TokenKind} {function : AggregateFunction} :
    aggregateFunction? kind = some function ↔ kind = .keyword function.keyword := by
  unfold aggregateFunction?
  split <;> cases function <;> simp_all [AggregateFunction.keyword]

theorem joinKind?_eq_some {kind : TokenKind} {join : JoinKind} :
    joinKind? kind = some join ↔ kind = .keyword join.keyword := by
  unfold joinKind?
  split <;> cases join <;> simp_all [JoinKind.keyword]

theorem reads_selectItem : Reads selectItem Item := by
  intro input
  obtain _ | ⟨token, input⟩ := input
  · exact .look_nil (.none (.unexpected _) (fun _ _ impossible => nomatch impossible))
  refine .look_cons ?_
  split
  next function found =>
    have name := aggregateFunction?_eq_some.mp found
    refine .advance (.congr (.bind (reads_skip (by decide) input) fun _ _ _ => .bind (reads_ident _) fun column _ _ =>
      .bind (reads_skip (by decide) _) fun _ _ _ => .pure _) fun item rest => ?_)
    constructor
    · intro holds
      obtain ⟨_, _, ⟨_, rfl⟩, column, _, rfl, _, _, ⟨_, rfl⟩, rfl, rfl⟩ := holds
      exact .aggregate name
    · intro item
      cases item with
      | column => cases name
      | aggregate other =>
        cases found.symm.trans (aggregateFunction?_eq_some.mpr other)
        exact ⟨(), _, ⟨_, rfl⟩, _, _, rfl, (), _, ⟨_, rfl⟩, rfl, rfl⟩
  next plain =>
    have noFunction {function : AggregateFunction} : token.kind ≠ .keyword function.keyword := fun name => by
      cases plain.symm.trans (aggregateFunction?_eq_some.mpr name)
    split
    next word =>
      refine .congr (.bind (reads_ident _) fun column _ _ => .pure _) fun item rest => ?_
      constructor
      · intro holds
        obtain ⟨column, _, shape, rfl, rfl⟩ := holds
        rw [shape]
        exact .column
      · intro item
        cases item with
        | column => exact ⟨_, _, rfl, rfl, rfl⟩
        | aggregate name => exact absurd name noFunction
    next noWord =>
      refine .none (.unexpected _) fun item rest item => ?_
      cases item with
      | column => exact noWord rfl
      | aggregate name => exact absurd name noFunction

theorem reads_projection : Reads projection fun input columns rest =>
    Selection input columns rest ∧ (columns = .all ∨ ¬ Ahead .comma rest) := by
  intro input
  refine .accept (by decide) (fun literal middle shape => ?_) fun absent => ?_
  · subst shape
    refine .one fun columns rest => ⟨?_, ?_⟩
    · intro ⟨selection, _⟩
      cases selection with
      | all => exact ⟨rfl, rfl⟩
      | items listed =>
        obtain ⟨first, _⟩ := listed
        cases first with
        | aggregate name => cases name
    · intro holds
      obtain ⟨rfl, rfl⟩ := holds
      exact ⟨.all, .inl rfl⟩
  · refine .congr (.bind (reads_commaSeparated reads_selectItem item_consumes input) fun items _ _ => .pure _)
      fun columns rest => ?_
    constructor
    · intro holds
      obtain ⟨items, _, ⟨listed, closed⟩, rfl, rfl⟩ := holds
      exact ⟨.items listed, .inr closed⟩
    · intro ⟨selection, closed⟩
      cases selection with
      | all => exact absurd ⟨_, _, rfl⟩ absent
      | items listed => exact ⟨_, _, ⟨listed, closed.resolve_left (by simp)⟩, rfl, rfl⟩

theorem reads_joinOperands (kind : JoinKind) : Reads (joinOperands kind) (Operands kind) := by
  refine ((reads_expectKeyword .JOIN).bind fun _ => reads_ident.bind fun table => (reads_expectKeyword .ON).bind fun _ =>
    reads_ident.bind fun first => (reads_expectKeyword .EQUAL).bind fun _ => reads_ident.bind fun second =>
      .pure _).congr fun input join rest => ?_
  constructor
  · intro holds
    obtain ⟨_, _, ⟨_, rfl⟩, table, _, rfl, _, _, ⟨_, rfl⟩, first, _, rfl, _, _, ⟨_, rfl⟩, second, _, rfl, rfl, rfl⟩ := holds
    exact .intro
  · intro ⟨⟩
    exact ⟨(), _, ⟨_, rfl⟩, _, _, rfl, (), _, ⟨_, rfl⟩, _, _, rfl, (), _, ⟨_, rfl⟩, _, _, rfl, rfl, rfl⟩

/-- The tokens a join begins with. -/
def JoinAhead (input : List Token) : Prop :=
  Ahead (.keyword .JOIN) input ∨ ∃ kind : JoinKind, Ahead (.keyword kind.keyword) input

private theorem joinKind_ne_join (kind : JoinKind) : TokenKind.keyword kind.keyword ≠ .keyword .JOIN := by cases kind <;> decide

theorem reads_join? : Reads join? fun input join rest => Joined input join rest ∧ (join = none → ¬ JoinAhead rest) := by
  intro input
  refine .look ?_
  split
  next kind found =>
    have name := joinKind?_eq_some.mp found
    obtain ⟨literal, input, rfl⟩ := (ahead_iff (by simp)).mp name
    refine .advance (.congr (.bind (reads_joinOperands kind input) fun join _ _ => .pure _) fun join rest => ?_)
    constructor
    · intro holds
      obtain ⟨join, _, operands, rfl, rfl⟩ := holds
      exact ⟨.ofKind rfl operands, nofun⟩
    · intro ⟨joined, closed⟩
      cases joined with
      | absent => exact absurd (.inr ⟨kind, _, _, rfl⟩) (closed rfl)
      | ofKind other operands =>
        cases found.symm.trans (joinKind?_eq_some.mpr other)
        exact ⟨_, _, operands, rfl, rfl⟩
      | plain operands =>
        generalize shape : Token.mk (.keyword kind.keyword) literal :: input = tokens at operands
        cases operands
        exact absurd (congrArg Token.kind (List.cons.inj shape).1) (joinKind_ne_join kind)
  next noKind =>
    have closed {kind : JoinKind} : ¬ Ahead (.keyword kind.keyword) input := fun ahead => by
      cases noKind.symm.trans (joinKind?_eq_some.mpr ((ahead_iff (by simp)).mpr ahead))
    split
    next join =>
      refine .congr (.bind (reads_joinOperands .inner input) fun join _ _ => .pure _) fun join rest => ?_
      constructor
      · intro holds
        obtain ⟨join, _, operands, rfl, rfl⟩ := holds
        exact ⟨.plain operands, nofun⟩
      · intro ⟨joined, ended⟩
        cases joined with
        | absent => exact absurd (.inl ((ahead_iff (by simp)).mp join)) (ended rfl)
        | plain operands => exact ⟨_, _, operands, rfl, rfl⟩
        | ofKind name => exact absurd (ahead_cons.mpr name) closed
    next noJoin =>
      refine .one fun join rest => ⟨?_, ?_⟩
      · intro ⟨joined, _⟩
        cases joined with
        | absent => exact ⟨rfl, rfl⟩
        | plain operands => cases operands; exact absurd rfl noJoin
        | ofKind name => exact absurd (ahead_cons.mpr name) closed
      · intro holds
        obtain ⟨rfl, rfl⟩ := holds
        refine ⟨.absent, fun _ => ?_⟩
        intro holds
        rcases holds with ahead | ⟨kind, ahead⟩
        · exact noJoin ((ahead_iff (by simp)).mpr ahead)
        · exact closed ahead

private theorem end_not_join (closed : End input rest) : ¬ JoinAhead input := by
  intro holds
  rcases holds with ahead | ⟨kind, ahead⟩
  · exact end_not_ahead closed (by decide) ahead
  · exact end_not_ahead closed (by cases kind <;> decide) ahead

theorem reads_distinct : Reads (accept (.keyword .DISTINCT)) fun input repeated rest =>
    Distinct input repeated rest ∧ (repeated = false → ¬ Ahead (.keyword .DISTINCT) rest) := by
  intro input
  rw [← bind_pure (accept _)]
  refine .accept (by simp) (fun literal rest shape => ?_) fun absent => ?_
  · subst shape
    refine .one fun repeated rest => ⟨?_, ?_⟩
    · intro ⟨distinct, closed⟩
      cases distinct with
      | absent => exact absurd ⟨_, _, rfl⟩ (closed rfl)
      | present => exact ⟨rfl, rfl⟩
    · intro holds
      obtain ⟨rfl, rfl⟩ := holds
      exact ⟨.present, nofun⟩
  · refine .one fun repeated rest => ⟨?_, ?_⟩
    · intro ⟨distinct, _⟩
      cases distinct with
      | absent => exact ⟨rfl, rfl⟩
      | present => exact absurd ⟨_, _, rfl⟩ absent
    · intro holds
      obtain ⟨rfl, rfl⟩ := holds
      exact ⟨.absent, fun _ => absent⟩

private theorem selection_not_distinct {columns : Projection} (selection : Selection input columns rest) :
    ¬ Ahead (.keyword .DISTINCT) input := by
  cases selection with
  | all => simp [ahead_cons]
  | items listed =>
    obtain ⟨first, _⟩ := listed
    cases first with
    | column => simp [ahead_cons]
    | @aggregate token _ _ _ _ function name => 
      rw [ahead_cons, name]
      cases function <;> decide

theorem reads_select : Reads select (Phrase .SELECT) := by
  unfold select
  refine ((reads_expectKeyword .SELECT).bind fun _ => reads_distinct.bind fun distinct => reads_projection.bind fun columns =>
    (reads_expectKeyword .FROM).bind fun _ => reads_ident.bind fun table => reads_join?.bind fun join =>
      reads_commandEnd.bind fun _ => .pure _).congr fun input command rest => ?_
  constructor
  · rintro ⟨_, _, ⟨_, rfl⟩, distinct, _, ⟨repeated, _⟩, columns, _, ⟨selection, _⟩, _, _, ⟨_, rfl⟩, table, _, rfl,
      join, _, ⟨joined, _⟩, _, _, closed, rfl, rfl⟩
    exact .select repeated selection joined closed
  · intro phrase
    cases phrase with
    | select distinct selection joined closed =>
      exact ⟨(), _, ⟨_, rfl⟩, _, _, ⟨distinct, fun _ => selection_not_distinct selection⟩, _, _,
        ⟨selection, .inr (by simp [ahead_cons])⟩, (), _, ⟨_, rfl⟩, _, _, rfl,
        _, _, ⟨joined, fun _ => end_not_join closed⟩, (), _, closed, rfl, rfl⟩

theorem reads_assignment : Reads assignment Setting := by
  refine (reads_ident.bind fun column => (reads_expectKeyword .TO).bind fun _ => reads_value.bind fun value =>
    .pure _).congr fun input setting rest => ?_
  constructor
  · intro holds
    obtain ⟨column, _, rfl, _, _, ⟨_, rfl⟩, value, _, right, rfl, rfl⟩ := holds
    exact .intro right
  · intro ⟨right⟩
    exact ⟨_, _, rfl, (), _, ⟨_, rfl⟩, _, _, right, rfl, rfl⟩

theorem reads_update : Reads update (Phrase .UPDATE) := by
  have assignments := reads_commaSeparated reads_assignment setting_consumes
  refine ((reads_expectKeyword .UPDATE).bind fun _ => reads_ident.bind fun table => (reads_expectKeyword .SET).bind fun _ =>
    assignments.bind fun assignments => reads_commandEnd.bind fun _ => .pure _).congr fun input command rest => ?_
  constructor
  · intro holds
    obtain ⟨_, _, ⟨_, rfl⟩, table, _, rfl, _, _, ⟨_, rfl⟩, assignments, _, ⟨settings, _⟩, _, _, closed, rfl, rfl⟩ := holds
    exact .update settings closed
  · intro phrase
    cases phrase with
    | update settings closed =>
      exact ⟨(), _, ⟨_, rfl⟩, _, _, rfl, (), _, ⟨_, rfl⟩, _, _, ⟨settings, end_not_ahead closed (by decide)⟩,
        (), _, closed, rfl, rfl⟩

theorem reads_delete : Reads delete (Phrase .DELETE) := by
  refine ((reads_expectKeyword .DELETE).bind fun _ => (reads_expectKeyword .FROM).bind fun _ => reads_ident.bind fun table =>
    reads_commandEnd.bind fun _ => .pure _).congr fun input command rest => ?_
  constructor
  · intro holds
    obtain ⟨_, _, ⟨_, rfl⟩, _, _, ⟨_, rfl⟩, table, _, rfl, _, _, closed, rfl, rfl⟩ := holds
    exact .delete closed
  · intro phrase
    cases phrase with
    | delete closed => exact ⟨(), _, ⟨_, rfl⟩, (), _, ⟨_, rfl⟩, _, _, rfl, (), _, closed, rfl, rfl⟩

end MiniSql.Parser

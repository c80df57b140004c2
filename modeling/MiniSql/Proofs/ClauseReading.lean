import MiniSql.Proofs.CommandOrder
import MiniSql.Proofs.PhraseReading

/-! The clauses are read as their rules have them, and the keyword in front tells which command is read. -/

namespace MiniSql.Parser
open Grammar

private theorem reads_filter : Reads filter fun input clause rest => Phrase .WHERE input (.clause clause) rest := by
  intro input
  refine .congr (.bind (reads_expectKeyword .WHERE input) fun _ middle _ => .connective (.get fun _ =>
    .bind (condition_gives _ (Nat.lt_succ_self _)) fun condition behind _ => .bind (reads_commandEnd behind) fun _ _ _ =>
      .pure _)) fun clause rest => ?_
  constructor
  · intro holds
    obtain ⟨_, _, ⟨_, rfl⟩, condition, _, ⟨expression, _⟩, _, _, closed, rfl, rfl⟩ := holds
    exact .filter expression closed
  · intro phrase
    cases phrase with
    | filter expression closed =>
      exact ⟨(), _, ⟨_, rfl⟩, _, _, ⟨expression, end_not_ahead closed (by decide), end_not_ahead closed (by decide)⟩,
        (), _, closed, rfl, rfl⟩

theorem reads_direction : Reads direction fun input direction rest =>
    ∃ token, input = token :: rest ∧ token.kind = .keyword (Direction.keyword direction) := by
  intro input
  refine .look ?_
  split
  next word =>
    obtain ⟨literal, input, rfl⟩ := (ahead_iff (by simp)).mp word
    refine .advance (.one fun direction rest => ⟨?_, ?_⟩)
    · intro ⟨token, shape, same⟩
      cases shape
      cases direction with
      | ascending => exact ⟨rfl, rfl⟩
      | descending => cases same
    · intro holds
      obtain ⟨rfl, rfl⟩ := holds
      exact ⟨_, rfl, rfl⟩
  next word =>
    obtain ⟨literal, input, rfl⟩ := (ahead_iff (by simp)).mp word
    refine .advance (.one fun direction rest => ⟨?_, ?_⟩)
    · intro ⟨token, shape, same⟩
      cases shape
      cases direction with
      | ascending => cases same
      | descending => exact ⟨rfl, rfl⟩
    · intro holds
      obtain ⟨rfl, rfl⟩ := holds
      exact ⟨_, rfl, rfl⟩
  next noAscending noDescending =>
    refine .none (.unexpected _) ?_
    intro direction rest holds
    obtain ⟨token, rfl, same⟩ := holds
    cases direction with
    | ascending => exact noAscending same
    | descending => exact noDescending same

theorem reads_sortKey : Reads sortKey Key := by
  refine (reads_ident.bind fun column => reads_direction.bind fun direction => .pure _).congr fun input key rest => ?_
  constructor
  · intro holds
    obtain ⟨column, _, rfl, direction, _, ⟨token, rfl, word⟩, rfl, rfl⟩ := holds
    exact .intro word
  · intro ⟨word⟩
    exact ⟨_, _, rfl, _, _, ⟨_, rfl, word⟩, rfl, rfl⟩

private theorem reads_orderBy : Reads orderBy fun input clause rest => Phrase .ORDER input (.clause clause) rest := by
  have keys := reads_commaSeparated reads_sortKey key_consumes
  refine ((reads_expectKeyword .ORDER).bind fun _ => (reads_expectKeyword .BY).bind fun _ => keys.bind fun keys =>
    reads_commandEnd.bind fun _ => .pure _).congr fun input clause rest => ?_
  constructor
  · intro holds
    obtain ⟨_, _, ⟨_, rfl⟩, _, _, ⟨_, rfl⟩, keys, _, ⟨listed, _⟩, _, _, closed, rfl, rfl⟩ := holds
    exact .orderBy listed closed
  · intro phrase
    cases phrase with
    | orderBy listed closed =>
      exact ⟨(), _, ⟨_, rfl⟩, (), _, ⟨_, rfl⟩, _, _, ⟨listed, end_not_ahead closed (by decide)⟩, (), _, closed, rfl, rfl⟩

theorem reads_count (clause : String) : Reads (count clause) Count := by
  intro input
  refine .look ?_
  split
  next literal =>
    obtain ⟨digits, input, rfl⟩ := (ahead_iff (by decide)).mp literal
    refine .advance ?_
    dsimp only [List.headD_cons]
    split
    next number decimal =>
      split
      next bound =>
        refine .one fun result rest => ⟨?_, ?_⟩
        · intro ⟨other, _⟩
          cases decimal.symm.trans other
          exact ⟨rfl, rfl⟩
        · intro ⟨rfl, rfl⟩
          exact .intro decimal bound
      next beyond =>
        refine .none (.throw _) ?_
        intro result rest ⟨other, bound⟩
        cases decimal.symm.trans other
        exact beyond bound
    next noNumber =>
      refine .none (.throw _) ?_
      intro result rest ⟨decimal, _⟩
      cases noNumber.symm.trans decimal
  next noLiteral =>
    have empty (result : Nat) (rest : List Token) : ¬ Count input result rest := by
      intro ⟨_, _⟩
      exact noLiteral rfl
    split
    · exact .none (.throw _) empty
    · exact .none (.unexpected _) empty

private theorem reads_limit : Reads limit fun input clause rest => Phrase .LIMIT input (.clause clause) rest := by
  refine ((reads_expectKeyword .LIMIT).bind fun _ => (reads_count "limit").bind fun number => reads_commandEnd.bind fun _ =>
    .pure _).congr fun input clause rest => ?_
  constructor
  · intro holds
    obtain ⟨_, _, ⟨_, rfl⟩, number, _, count, _, _, closed, rfl, rfl⟩ := holds
    exact .limit count closed
  · intro phrase
    cases phrase with
    | limit count closed => exact ⟨(), _, ⟨_, rfl⟩, _, _, count, (), _, closed, rfl, rfl⟩

private theorem reads_offset : Reads offset fun input clause rest => Phrase .OFFSET input (.clause clause) rest := by
  refine ((reads_expectKeyword .OFFSET).bind fun _ => (reads_count "offset").bind fun number => reads_commandEnd.bind fun _ =>
    .pure _).congr fun input clause rest => ?_
  constructor
  · intro holds
    obtain ⟨_, _, ⟨_, rfl⟩, number, _, count, _, _, closed, rfl, rfl⟩ := holds
    exact .offset count closed
  · intro phrase
    cases phrase with
    | offset count closed => exact ⟨(), _, ⟨_, rfl⟩, _, _, count, (), _, closed, rfl, rfl⟩

private theorem reads_clause (kind : ClauseKind) :
    Reads (clause kind) fun input clause rest => Phrase kind.keyword input (.clause clause) rest := by
  cases kind with
  | filter => exact reads_filter
  | orderBy => exact reads_orderBy
  | limit => exact reads_limit
  | offset => exact reads_offset

theorem phrase_keyword {keyword : Keyword} {input rest : List Token} {command : Command}
    (phrase : Phrase keyword input command rest) : command.keyword = keyword := by
  cases phrase <;> rfl

theorem phrase_ahead {keyword : Keyword} {input rest : List Token} {command : Command}
    (phrase : Phrase keyword input command rest) : Ahead (.keyword keyword) input := by
  cases phrase <;> exact ⟨_, _, rfl⟩

private theorem clauseKind_keyword_injective {first second : ClauseKind} (same : first.keyword = second.keyword) : first = second := by
  cases first <;> cases second <;> simp_all [ClauseKind.keyword]

theorem phrase_clause {kind : ClauseKind} {input rest : List Token} {command : Command}
    (phrase : Phrase kind.keyword input command rest) : ∃ clause : Clause, command = .clause clause ∧ clause.kind = kind := by
  have same := phrase_keyword phrase
  cases command with
  | clause part => exact ⟨part, rfl, clauseKind_keyword_injective same⟩
  | createTable | dropTable | insert | select | update | delete => cases kind <;> cases same

/-- Any command, where it may stand. -/
def Placeable (before : List Command) : Rule Command := fun input command rest =>
  (∃ keyword, Phrase keyword input command rest) ∧ command.Placed before

private theorem phrase_of_ahead {keyword other : Keyword} {input rest : List Token} {command : Command}
    (ahead : (input.headD Token.eof).kind = .keyword keyword) (phrase : Phrase other input command rest) :
    Phrase keyword input command rest := by
  obtain ⟨literal, tokens, rfl⟩ := phrase_ahead phrase
  obtain rfl := TokenKind.keyword.inj ahead
  exact phrase

theorem head_gives (before : List Command) {keyword : Keyword} {parser : Parser Command} {input : List Token}
    (reads : Reads parser (Phrase keyword)) (head : ∀ kind : ClauseKind, kind.keyword ≠ keyword)
    (ahead : (input.headD Token.eof).kind = .keyword keyword) : Gives parser input (Placeable before input) := by
  refine (reads input).congr fun command rest => ⟨fun phrase => ⟨⟨_, phrase⟩, ?_⟩, ?_⟩
  · intro clause rfl
    exact absurd (phrase_keyword phrase) (head clause.kind)
  · intro ⟨⟨other, phrase⟩, _⟩
    exact phrase_of_ahead ahead phrase

theorem clauseAfter_gives (before : List Command) (kind : ClauseKind) {input : List Token}
    (ahead : (input.headD Token.eof).kind = .keyword kind.keyword) :
    Gives (clauseAfter before kind) input (Placeable before input) := by
  cases position : kind.checkPosition before with
  | error error =>
    refine .none (.refuse position) ?_
    intro command rest ⟨⟨keyword, phrase⟩, placed⟩
    obtain ⟨clause, same, rfl⟩ := phrase_clause (phrase_of_ahead ahead phrase)
    cases position.symm.trans (placed clause same)
  | ok =>
    refine .check position (.congr (.bind (reads_clause kind input) fun clause _ _ => .pure _) fun command rest => ?_)
    constructor
    · intro holds
      obtain ⟨clause, _, phrase, rfl, rfl⟩ := holds
      obtain ⟨_, ⟨⟩, rfl⟩ := phrase_clause phrase
      refine ⟨⟨_, phrase⟩, ?_⟩
      intro _ holds
      cases holds
      exact position
    · intro ⟨⟨keyword, phrase⟩, _⟩
      have own := phrase_of_ahead ahead phrase
      obtain ⟨clause, rfl, _⟩ := phrase_clause own
      exact ⟨clause, _, own, rfl, rfl⟩

theorem reads_command (before : List Command) : Reads (command before) (Placeable before) := by
  intro input
  refine .look ?_
  split
  next ahead => exact head_gives before reads_createTable (by intro kind; cases kind <;> decide) ahead
  next ahead => exact head_gives before reads_dropTable (by intro kind; cases kind <;> decide) ahead
  next ahead => exact head_gives before reads_insert (by intro kind; cases kind <;> decide) ahead
  next ahead => exact head_gives before reads_select (by intro kind; cases kind <;> decide) ahead
  next ahead => exact head_gives before reads_update (by intro kind; cases kind <;> decide) ahead
  next ahead => exact head_gives before reads_delete (by intro kind; cases kind <;> decide) ahead
  next ahead => exact clauseAfter_gives before .filter ahead
  next ahead => exact clauseAfter_gives before .orderBy ahead
  next ahead => exact clauseAfter_gives before .limit ahead
  next ahead => exact clauseAfter_gives before .offset ahead
  next illegal =>
    refine .none (.throw _) ?_
    intro command rest ⟨⟨keyword, phrase⟩, _⟩
    obtain ⟨_, _, rfl⟩ := phrase_ahead phrase
    cases illegal
  next =>
    refine .none (.throw _) ?_
    intro command rest ⟨⟨keyword, phrase⟩, _⟩
    have same := (ahead_iff (by simp)).mpr (phrase_ahead phrase)
    cases phrase <;> contradiction

end MiniSql.Parser

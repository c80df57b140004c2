import MiniSql.Parser.Condition
import MiniSql.Proofs.Reading

/-! Values and conditions are read as the grammar has them. A parser loops where the grammar recurses
on the left, so a chain of operands is first told from its front. -/

namespace MiniSql.Parser
open Grammar

theorem constant_not_close {input rest : List Token} {value : Token} (constant : Constant input value rest) :
    ¬ Ahead .rightParen input := by
  cases constant <;> simp [ahead_cons]

private theorem quoted_gives (opening : String) (input : List Token) :
    Gives (do
      let inner ← current
      if inner.kind = .eof then Parser.unexpected [.ident]
      else
        advance
        if ← accept .apostrophe then return ⟨.ident, inner.literal⟩ else throw (.unclosedQuote inner.literal))
      input (Constant (⟨.apostrophe, opening⟩ :: input)) := by
  refine .look ?_
  split
  next ended =>
    refine .none (.unexpected _) fun value rest constant => ?_
    cases constant with
    | quoted inside => exact inside ended
  next inside =>
    cases input with
    | nil => exact absurd rfl inside
    | cons inner rest =>
      refine .advance (.accept (by decide) (fun literal behind shape => ?_) fun absent => ?_)
      · subst shape
        refine .one fun value after => ⟨fun constant => ?_, ?_⟩
        · cases constant
          exact ⟨rfl, rfl⟩
        · intro holds
          obtain ⟨rfl, rfl⟩ := holds
          exact .quoted inside
      · refine .none (.throw _) fun value after constant => ?_
        cases constant
        exact absent ⟨_, _, rfl⟩

theorem reads_value : Reads value Constant := by
  intro input
  obtain _ | ⟨⟨kind, literal⟩, input⟩ := input
  · exact .look_nil (.none (.unexpected _) (fun _ _ impossible => nomatch impossible))
  refine .look_cons ?_
  dsimp only
  split
  next =>
    refine .advance (.one fun value rest => ⟨fun constant => ?_, ?_⟩)
    · cases constant
      exact ⟨rfl, rfl⟩
    · intro holds
      obtain ⟨rfl, rfl⟩ := holds
      exact .number
  next =>
    refine .advance (.one fun value rest => ⟨fun constant => ?_, ?_⟩)
    · cases constant
      exact ⟨rfl, rfl⟩
    · intro holds
      obtain ⟨rfl, rfl⟩ := holds
      exact .null
  next => exact .advance (quoted_gives literal input)
  next => exact .none (.throw _) (fun _ _ impossible => nomatch impossible)
  next =>
    refine .none (.unexpected _) fun value rest constant => ?_
    cases constant <;> contradiction

theorem comparison?_eq_some {kind : TokenKind} {comparison : Comparison} :
    comparison? kind = some comparison ↔ kind = .keyword comparison.keyword := by
  unfold comparison?
  split <;> cases comparison <;> simp_all [Comparison.keyword]

theorem membership?_eq_some {kind : TokenKind} {membership : Membership} :
    membership? kind = some membership ↔ kind = .keyword membership.keyword := by
  unfold membership?
  split <;> cases membership <;> simp_all [Membership.keyword]

private theorem comparison_ne_membership (comparison : Comparison) (membership : Membership) :
    TokenKind.keyword comparison.keyword ≠ .keyword membership.keyword := by
  cases comparison <;> cases membership <;> decide

theorem columnTest_gives (column : String) (input : List Token) :
    Gives (columnTest column) input (Expression .operand (⟨.ident, column⟩ :: input)) := by
  obtain _ | ⟨token, input⟩ := input
  · exact .look_nil (.none (.unexpected _) (fun _ _ impossible => nomatch impossible))
  refine .look_cons ?_
  split
  next comparison found =>
    have sign := comparison?_eq_some.mp found
    refine .advance (.congr (.bind (reads_value input) fun value _ _ => .pure _) fun condition rest => ?_)
    constructor
    · intro holds
      obtain ⟨value, _, right, rfl, rfl⟩ := holds
      exact .compare sign right
    · intro derivation
      cases derivation with
      | compare other right =>
        cases found.symm.trans (comparison?_eq_some.mpr other)
        exact ⟨_, _, right, rfl, rfl⟩
      | member other => exact absurd (sign.symm.trans other) (comparison_ne_membership _ _)
  next membership _ found =>
    have sign := membership?_eq_some.mp found
    refine .advance (.step (reads_skip (by decide) input) ?_ fun absent condition rest derivation => ?_)
    · intro _ inner holds
      obtain ⟨opening, rfl⟩ := holds
      refine .congr (.bind (reads_commaSeparated reads_value constant_consumes inner) fun values _ _ =>
        .bind (reads_skip (by decide) _) fun _ _ _ => .pure _) fun condition rest => ?_
      constructor
      · intro holds
        obtain ⟨values, _, ⟨list, _⟩, _, _, ⟨closing, rfl⟩, rfl, rfl⟩ := holds
        exact .member sign list
      · intro derivation
        cases derivation with
        | compare other right => cases right
        | member other list =>
          cases found.symm.trans (membership?_eq_some.mpr other)
          exact ⟨_, _, ⟨list, by simp [ahead_cons]⟩, (), _, ⟨_, rfl⟩, rfl, rfl⟩
    · cases derivation with
      | compare other => exact absurd (other.symm.trans sign) (comparison_ne_membership _ _)
      | member => exact absent () _ ⟨_, rfl⟩
  next noComparison noMembership =>
    refine .none (.unexpected _) fun condition rest derivation => ?_
    cases derivation with
    | compare sign => cases noComparison.symm.trans (comparison?_eq_some.mpr sign)
    | member sign => cases noMembership.symm.trans (membership?_eq_some.mpr sign)

private theorem brokenCondition_gives (input : List Token) : Gives (brokenCondition : Parser α) input fun _ _ => False :=
  .get fun _ => .throw _

private theorem closing_gives (condition : Condition) (input : List Token) :
    Gives (do if ← accept .rightParen then return condition else brokenCondition) input fun result rest =>
      result = condition ∧ ∃ closing, input = ⟨.rightParen, closing⟩ :: rest := by
  refine .accept (by decide) (fun closing rest shape => ?_) fun absent => ?_
  · subst shape
    exact .one fun result after => by simp [eq_comm]
  · refine .none (brokenCondition_gives _) ?_
    intro result rest holds
    obtain ⟨_, closing, rfl⟩ := holds
    exact absent ⟨_, _, rfl⟩

theorem operand_gives {condition : Parser Condition} {input : List Token}
    (inner : ∀ opening tokens, input = ⟨.leftParen, opening⟩ :: tokens → Gives condition tokens fun value rest =>
      Expression .disjunction tokens value rest ∧ ¬ Ahead (.keyword .AND) rest ∧ ¬ Ahead (.keyword .OR) rest) :
    Gives (operand condition) input (Expression .operand input) := by
  obtain _ | ⟨⟨kind, literal⟩, input⟩ := input
  · exact .look_nil (.none (brokenCondition_gives _) (fun _ _ impossible => nomatch impossible))
  refine .look_cons ?_
  dsimp only
  split
  next =>
    refine .advance (.congr (.bind (inner literal input rfl) fun condition middle _ => closing_gives condition middle)
      fun condition rest => ?_)
    constructor
    · intro holds
      obtain ⟨condition, _, ⟨derivation, _⟩, rfl, closing, rfl⟩ := holds
      exact .parentheses derivation
    · intro derivation
      cases derivation with
      | parentheses derivation => exact ⟨_, _, ⟨derivation, by simp [ahead_cons]⟩, rfl, _, rfl⟩
  next =>
    refine .advance (.one fun condition rest => ⟨fun derivation => ?_, ?_⟩)
    · cases derivation
      exact ⟨rfl, rfl⟩
    · intro holds
      obtain ⟨rfl, rfl⟩ := holds
      exact .true
  next =>
    refine .advance (.one fun condition rest => ⟨fun derivation => ?_, ?_⟩)
    · cases derivation
      exact ⟨rfl, rfl⟩
    · intro holds
      obtain ⟨rfl, rfl⟩ := holds
      exact .false
  next =>
    refine .congr (.bind (reads_ident _) fun column middle _ => columnTest_gives column middle) fun condition rest => ?_
    constructor
    · intro ⟨column, middle, shape, derivation⟩
      rwa [shape]
    · intro derivation
      exact ⟨literal, input, rfl, derivation⟩
  next => exact .none (.throw _) (fun _ _ impossible => nomatch impossible)
  next =>
    refine .none (brokenCondition_gives _) fun condition rest derivation => ?_
    cases derivation <;> contradiction

/-- The rest of a chain behind its part on the left, told from the front. -/
inductive Continued (connective : Keyword) (combine : Condition → Condition → Condition) (item : Rule Condition) :
    Condition → Rule Condition where
  | done : Continued connective combine item left rest left rest
  | more (right : item input second middle)
      (others : Continued connective combine item (combine left second) middle result rest) :
      Continued connective combine item left (⟨.keyword connective, spelling⟩ :: input) result rest

section Chains

variable {connective : Keyword} {combine : Condition → Condition → Condition} {item whole : Rule Condition}
  {left second result : Condition} {input middle rest : List Token} {spelling : String}

private theorem Continued.snoc (chain : Continued connective combine item left input result (⟨.keyword connective, spelling⟩ :: middle))
    (right : item middle second rest) : Continued connective combine item left input (combine result second) rest := by
  generalize shape : Token.mk (.keyword connective) spelling :: middle = behind at chain
  induction chain with
  | done => subst shape; exact .more right .done
  | more first _ ih => exact .more first (ih shape)

private theorem Continued.closed (chain : Continued connective combine item left middle result rest) (start : whole input left middle)
    (closed : ∀ {first second middle rest spelling}, whole input first (⟨.keyword connective, spelling⟩ :: middle) →
      item middle second rest → whole input (combine first second) rest) : whole input result rest := by
  induction chain with
  | done => exact start
  | more right _ ih => exact ih (closed start right)

theorem moreOperands_gives {operand : Parser Condition} (consumes : Consumes item) (limit : Nat)
    (reads : ∀ tokens : List Token, tokens.length ≤ limit → Gives operand tokens (item tokens)) (bound : Nat)
    (inside : input.length ≤ limit) (enough : input.length ≤ bound) (left : Condition) :
    Gives (moreOperands connective combine operand bound left) input fun result rest =>
      Continued connective combine item left input result rest ∧ ¬ Ahead (.keyword connective) rest := by
  induction bound generalizing input left with
  | zero =>
    obtain rfl := List.length_eq_zero_iff.mp (Nat.le_zero.mp enough)
    refine .one fun result rest => ⟨?_, ?_⟩
    · intro holds
      obtain ⟨⟨⟩, _⟩ := holds
      exact ⟨rfl, rfl⟩
    · intro holds
      obtain ⟨rfl, rfl⟩ := holds
      exact ⟨.done, not_ahead_nil⟩
  | succ bound ih =>
    refine .accept (by simp) (fun spelling middle shape => ?_) fun absent => ?_
    · subst shape
      simp only [List.length_cons] at inside enough
      refine .connective (.congr (.bind (reads middle (by omega)) fun second behind right => ih ?_ ?_ (combine left second))
        fun result rest => ?_)
      · have := consumes.length right
        omega
      · have := consumes.length right
        omega
      constructor
      · intro ⟨second, behind, right, others, closed⟩
        exact ⟨.more right others, closed⟩
      · intro ⟨chain, closed⟩
        cases chain with
        | done => exact absurd ⟨_, _, rfl⟩ closed
        | more right others => exact ⟨_, _, right, others, closed⟩
    · refine .one fun result rest => ⟨?_, ?_⟩
      · intro ⟨chain, _⟩
        cases chain with
        | done => exact ⟨rfl, rfl⟩
        | more => exact absurd ⟨_, _, rfl⟩ absent
      · intro ⟨rfl, rfl⟩
        exact ⟨.done, absent⟩

theorem chain_gives {operand : Parser Condition} (consumes : Consumes item)
    (reads : ∀ tokens : List Token, tokens.length ≤ input.length → Gives operand tokens (item tokens)) :
    Gives (chain connective combine operand) input fun result rest =>
      (∃ first middle, item input first middle ∧ Continued connective combine item first middle result rest) ∧
        ¬ Ahead (.keyword connective) rest := by
  refine .congr (.bind (reads input (Nat.le_refl _)) fun first middle one => .get fun _ =>
    moreOperands_gives consumes input.length reads middle.length ?_ (Nat.le_refl _) first) fun result rest => ?_
  · exact Nat.le_of_lt (consumes.length one)
  · constructor
    · intro ⟨first, middle, one, chain, closed⟩
      exact ⟨⟨first, middle, one, chain⟩, closed⟩
    · intro ⟨⟨first, middle, one, chain⟩, closed⟩
      exact ⟨first, middle, one, chain, closed⟩

end Chains

theorem expression_chain {level : Level} {input rest : List Token} {condition : Condition}
    (derivation : Expression level input condition rest) :
    match level with
    | .disjunction => ∃ first middle, Expression .conjunction input first middle ∧
        Continued .OR .or (Expression .conjunction) first middle condition rest
    | .conjunction => ∃ first middle, Expression .operand input first middle ∧
        Continued .AND .and (Expression .operand) first middle condition rest
    | .operand => True := by
  induction derivation with
  | conjunction only => exact ⟨_, _, only, .done⟩
  | operand only => exact ⟨_, _, only, .done⟩
  | or _ right ih =>
    obtain ⟨first, middle, one, chain⟩ := ih
    exact ⟨first, middle, one, chain.snoc right⟩
  | and _ right ih =>
    obtain ⟨first, middle, one, chain⟩ := ih
    exact ⟨first, middle, one, chain.snoc right⟩
  | parentheses | true | false | compare | member => trivial

theorem conjunction_gives {operand : Parser Condition} {input : List Token}
    (reads : ∀ tokens : List Token, tokens.length ≤ input.length → Gives operand tokens (Expression .operand tokens)) :
    Gives (chain .AND .and operand) input fun condition rest =>
      Expression .conjunction input condition rest ∧ ¬ Ahead (.keyword .AND) rest := by
  refine (chain_gives expression_consumes reads).congr fun condition rest => and_congr_left fun _ => ?_
  constructor
  · intro ⟨first, middle, one, chain⟩
    exact chain.closed (.operand one) fun left right => .and left right
  · exact expression_chain

/-- An operand of OR stands in front of an OR or ends the whole chain, so it is enough that AND does not
follow the chain. -/
theorem continued_guarded {item : Rule Condition} {left condition : Condition} {input rest : List Token} :
    ¬ Ahead (.keyword .AND) input ∧
        Continued .OR .or (fun input condition rest => item input condition rest ∧ ¬ Ahead (.keyword .AND) rest)
          left input condition rest ↔
      Continued .OR .or item left input condition rest ∧ ¬ Ahead (.keyword .AND) rest := by
  constructor
  · intro ⟨guard, chain⟩
    induction chain with
    | done => exact ⟨.done, guard⟩
    | more right _ ih =>
      obtain ⟨others, closed⟩ := ih right.2
      exact ⟨.more right.1 others, closed⟩
  · intro ⟨chain, closed⟩
    induction chain with
    | done => exact ⟨closed, .done⟩
    | more right _ ih =>
      obtain ⟨guard, others⟩ := ih closed
      exact ⟨by simp [ahead_cons], .more ⟨right, guard⟩ others⟩

theorem condition_gives (depth : Nat) {input : List Token} (enough : input.length < depth) :
    Gives (condition depth) input fun condition rest =>
      Expression .disjunction input condition rest ∧ ¬ Ahead (.keyword .AND) rest ∧ ¬ Ahead (.keyword .OR) rest := by
  induction depth generalizing input with
  | zero => omega
  | succ depth ih =>
    have operands (tokens : List Token) (inside : tokens.length ≤ input.length) :
        Gives (operand (condition depth)) tokens (Expression .operand tokens) := by
      refine operand_gives fun opening inner shape => ih ?_
      subst shape
      simp only [List.length_cons] at inside
      omega
    refine (chain_gives (fun _ _ _ derivation => expression_consumes _ _ _ derivation.1) fun tokens inside =>
      conjunction_gives fun inner smaller => operands inner (by omega)).congr fun condition rest => ?_
    constructor
    · intro ⟨⟨first, middle, ⟨one, guard⟩, chain⟩, ended⟩
      obtain ⟨chain, closed⟩ := continued_guarded.mp ⟨guard, chain⟩
      exact ⟨chain.closed (.conjunction one) fun left right => .or left right, closed, ended⟩
    · intro ⟨derivation, closed, ended⟩
      obtain ⟨first, middle, one, chain⟩ := expression_chain derivation
      obtain ⟨guard, chain⟩ := continued_guarded.mpr ⟨chain, closed⟩
      exact ⟨⟨first, middle, ⟨one, guard⟩, chain⟩, ended⟩

end MiniSql.Parser

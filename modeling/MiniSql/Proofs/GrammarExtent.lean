import Mathlib.Data.List.Basic
import MiniSql.Proofs.ProgramReading

/-! What the rules take. The tokens a rule takes do not depend on those behind them, and a semicolon among them is a
quoted value. So commands can be put one text behind another, and a program comes apart at each semicolon that
quotes nothing. -/

namespace MiniSql.Grammar

variable {rule : Rule α} {input rest tokens more taken mark front back : List Token} {token semicolon : Token}

private theorem ahead_append {kind : TokenKind} (ahead : Ahead kind tokens) : Ahead kind (tokens ++ more) := by
  obtain ⟨literal, others, rfl⟩ := ahead
  exact ⟨literal, others ++ more, rfl⟩

/-- Each semicolon has an apostrophe directly behind it. -/
def Masked (tokens : List Token) : Prop :=
  ∀ front mark back, tokens = front ++ mark :: back → mark.kind = .semicolon → Ahead .apostrophe back

private theorem masked_nil : Masked [] := by
  intro front mark back shape
  cases front <;> cases shape

private theorem Masked.cons (plain : token.kind ≠ .semicolon) (masked : Masked tokens) : Masked (token :: tokens) := by
  intro front mark back shape semicolon
  cases front with
  | nil =>
    cases shape
    exact absurd semicolon plain
  | cons head front => exact masked front mark back (List.cons.inj shape).2 semicolon

private theorem Masked.append (masked : Masked tokens) (others : Masked more) : Masked (tokens ++ more) := by
  intro front mark back shape semicolon
  rcases List.append_eq_append_iff.mp shape with ⟨between, _, behind⟩ | ⟨between, inside, behind⟩
  · exact others between mark back behind semicolon
  · cases between with
    | nil => exact others [] mark back behind.symm semicolon
    | cons head between =>
      cases behind
      exact ahead_append (masked front mark between inside semicolon)

theorem masked_quoted {opening closing : String} {inner : Token} :
    Masked [⟨.apostrophe, opening⟩, inner, ⟨.apostrophe, closing⟩] := by
  have closed : Masked [⟨.apostrophe, closing⟩] := .cons nofun masked_nil
  have quoted : Masked [inner, ⟨.apostrophe, closing⟩] := by
    intro front mark back shape semicolon
    cases front with
    | nil =>
      cases shape
      exact ⟨closing, [], rfl⟩
    | cons head front => exact closed front mark back (List.cons.inj shape).2 semicolon
  exact .cons nofun quoted

/-- The rule takes these tokens for the value, whatever is behind them. -/
structure Takes (rule : Rule α) (taken : List Token) (value : α) : Prop where
  masked : Masked taken
  anywhere : ∀ rest, rule (taken ++ rest) value rest

/-- What the rule takes in one place it takes in any other. -/
def Framed (rule : Rule α) : Prop :=
  ∀ input value rest, rule input value rest → ∃ taken, input = taken ++ rest ∧ Takes rule taken value

theorem others_framed (framed : Framed rule) : Framed (Others rule) := by
  intro input values rest others
  induction others with
  | none => exact ⟨[], rfl, masked_nil, fun _ => .none⟩
  | @next _ _ _ _ _ spelling one _ ih =>
    obtain ⟨first, rfl, own, item⟩ := framed _ _ _ one
    obtain ⟨second, rfl, behind, more⟩ := ih
    refine ⟨⟨.comma, spelling⟩ :: (first ++ second), by simp, .cons nofun (own.append behind), fun rest => ?_⟩
    simp only [List.cons_append, List.append_assoc]
    exact .next (item _) (more rest)

theorem separated_framed (framed : Framed rule) : Framed (Separated rule) := by
  intro input values rest ⟨first, others⟩
  obtain ⟨head, rfl, own, one⟩ := framed _ _ _ first
  obtain ⟨tail, rfl, behind, more⟩ := others_framed framed _ _ _ others
  refine ⟨head ++ tail, by simp, own.append behind, fun rest => ?_⟩
  simp only [List.append_assoc]
  exact .intro (one _) (more rest)

theorem listed_framed (framed : Framed rule) : Framed (Listed rule) := by
  intro input values rest listed
  cases listed with
  | none => exact ⟨[_, _], rfl, .cons nofun (.cons nofun masked_nil), fun _ => .none⟩
  | @some _ _ closing _ opening items =>
    obtain ⟨inner, rfl, own, items⟩ := separated_framed framed _ _ _ items
    refine ⟨⟨.leftParen, opening⟩ :: (inner ++ [⟨.rightParen, closing⟩]), by simp, ?_, fun rest => ?_⟩
    · exact .cons nofun (own.append (.cons nofun masked_nil))
    · simp only [List.cons_append, List.append_assoc, List.nil_append]
      exact .some (items _)

theorem constant_framed : Framed Constant := by
  intro input value rest constant
  cases constant with
  | number => exact ⟨[_], rfl, .cons nofun masked_nil, fun _ => .number⟩
  | null => exact ⟨[_], rfl, .cons nofun masked_nil, fun _ => .null⟩
  | quoted inside => exact ⟨[_, _, _], rfl, masked_quoted, fun _ => .quoted inside⟩

theorem expression_framed {level : Level} : Framed (Expression level) := by
  intro input condition rest derivation
  induction derivation with
  | conjunction _ ih =>
    obtain ⟨taken, rfl, own, only⟩ := ih
    exact ⟨taken, rfl, own, fun rest => .conjunction (only rest)⟩
  | operand _ ih =>
    obtain ⟨taken, rfl, own, only⟩ := ih
    exact ⟨taken, rfl, own, fun rest => .operand (only rest)⟩
  | @or _ _ spelling _ _ _ _ _ left right =>
    obtain ⟨first, rfl, own, left⟩ := left
    obtain ⟨second, rfl, behind, right⟩ := right
    refine ⟨first ++ ⟨.keyword .OR, spelling⟩ :: second, by simp, own.append (.cons nofun behind), fun rest => ?_⟩
    simp only [List.cons_append, List.append_assoc]
    exact .or (left _) (right rest)
  | @and _ _ spelling _ _ _ _ _ left right =>
    obtain ⟨first, rfl, own, left⟩ := left
    obtain ⟨second, rfl, behind, right⟩ := right
    refine ⟨first ++ ⟨.keyword .AND, spelling⟩ :: second, by simp, own.append (.cons nofun behind), fun rest => ?_⟩
    simp only [List.cons_append, List.append_assoc]
    exact .and (left _) (right rest)
  | @parentheses _ _ closing _ opening _ ih =>
    obtain ⟨inner, rfl, own, only⟩ := ih
    refine ⟨⟨.leftParen, opening⟩ :: (inner ++ [⟨.rightParen, closing⟩]), by simp, ?_, fun rest => ?_⟩
    · exact .cons nofun (own.append (.cons nofun masked_nil))
    · simp only [List.cons_append, List.append_assoc, List.nil_append]
      exact .parentheses (only _)
  | true => exact ⟨[_], rfl, .cons nofun masked_nil, fun _ => .true⟩
  | false => exact ⟨[_], rfl, .cons nofun masked_nil, fun _ => .false⟩
  | compare sign right =>
    obtain ⟨value, rfl, own, right⟩ := constant_framed _ _ _ right
    refine ⟨_ :: _ :: value, rfl, .cons nofun (.cons (by simp [sign]) own), fun rest => ?_⟩
    exact .compare sign (right rest)
  | @member _ _ closing _ column token opening _ sign list =>
    obtain ⟨values, rfl, own, list⟩ := separated_framed constant_framed _ _ _ list
    refine ⟨⟨.ident, column⟩ :: token :: ⟨.leftParen, opening⟩ :: (values ++ [⟨.rightParen, closing⟩]), by simp, ?_, fun rest => ?_⟩
    · exact .cons nofun (.cons (by simp [sign]) (.cons nofun (own.append (.cons nofun masked_nil))))
    · simp only [List.cons_append, List.append_assoc, List.nil_append]
      exact .member sign (list _)

theorem declaration_framed : Framed Declaration := by
  intro input column rest ⟨plain, type⟩
  exact ⟨[_, _], rfl, .cons nofun (.cons (by simp [type]) masked_nil), fun _ => .intro plain type⟩

theorem item_framed : Framed Item := by
  intro input item rest chosen
  cases chosen with
  | column => exact ⟨[_], rfl, .cons nofun masked_nil, fun _ => .column⟩
  | aggregate name =>
    refine ⟨[_, _, _, _], rfl, ?_, fun _ => .aggregate name⟩
    exact .cons (by simp [name]) (.cons nofun (.cons nofun (.cons nofun masked_nil)))

theorem selection_framed : Framed Selection := by
  intro input columns rest selection
  cases selection with
  | all => exact ⟨[_], rfl, .cons nofun masked_nil, fun _ => .all⟩
  | items listed =>
    obtain ⟨taken, rfl, own, listed⟩ := separated_framed item_framed _ _ _ listed
    exact ⟨taken, rfl, own, fun rest => .items (listed rest)⟩

theorem distinct_framed : Framed Distinct := by
  intro input repeated rest distinct
  cases distinct with
  | absent => exact ⟨[], rfl, masked_nil, fun _ => .absent⟩
  | present => exact ⟨[_], rfl, .cons nofun masked_nil, fun _ => .present⟩

theorem operands_framed {kind : JoinKind} : Framed (Operands kind) := by
  intro input join rest ⟨⟩
  refine ⟨[_, _, _, _, _, _], rfl, ?_, fun _ => .intro⟩
  exact .cons nofun (.cons nofun (.cons nofun (.cons nofun (.cons nofun (.cons nofun masked_nil)))))

private theorem joined_framed : Framed Joined := by
  intro input join rest joined
  cases joined with
  | absent => exact ⟨[], rfl, masked_nil, fun _ => .absent⟩
  | plain operands =>
    obtain ⟨taken, rfl, own, operands⟩ := operands_framed _ _ _ operands
    exact ⟨taken, rfl, own, fun rest => .plain (operands rest)⟩
  | ofKind name operands =>
    obtain ⟨taken, rfl, own, operands⟩ := operands_framed _ _ _ operands
    exact ⟨_ :: taken, rfl, .cons (by simp [name]) own, fun rest => .ofKind name (operands rest)⟩

theorem setting_framed : Framed Setting := by
  intro input setting rest ⟨right⟩
  obtain ⟨value, rfl, own, right⟩ := constant_framed _ _ _ right
  exact ⟨_ :: _ :: value, rfl, .cons nofun (.cons nofun own), fun rest => .intro (right rest)⟩

theorem key_framed : Framed Key := by
  intro input key rest ⟨word⟩
  exact ⟨[_, _], rfl, .cons nofun (.cons (by simp [word]) masked_nil), fun _ => .intro word⟩

theorem count_framed : Framed Count := by
  intro input number rest ⟨decimal, bound⟩
  exact ⟨[_], rfl, .cons nofun masked_nil, fun _ => .intro decimal bound⟩

/-- How a command is marked off from what is behind it: by its semicolon, or by a clause that follows. -/
inductive Closes : List Token → List Token → Prop where
  | semicolon : Closes [⟨.semicolon, spelling⟩] behind
  | clause {kind : ClauseKind} (ahead : Ahead (.keyword kind.keyword) behind) : Closes [] behind

private theorem Closes.closed (closes : Closes mark rest) : End (mark ++ rest) rest := by
  cases closes with
  | semicolon => exact .semicolon
  | clause ahead => exact .clause ahead

private theorem Closes.append (closes : Closes mark rest) : Closes mark (rest ++ more) := by
  cases closes with
  | semicolon => exact .semicolon
  | clause ahead => exact .clause (ahead_append ahead)

private theorem closes_of_end (closed : End input rest) : ∃ mark, input = mark ++ rest ∧ Closes mark rest := by
  cases closed with
  | semicolon => exact ⟨[_], rfl, .semicolon⟩
  | clause ahead => exact ⟨[], rfl, .clause ahead⟩

/-- The tokens of a command in front of its mark. -/
structure Body (keyword : Keyword) (command : Command) (taken mark : List Token) : Prop where
  masked : Masked taken
  anywhere : ∀ rest, Closes mark rest → Phrase keyword (taken ++ (mark ++ rest)) command rest

theorem phrase_open {keyword : Keyword} {command : Command} (phrase : Phrase keyword input command rest)
    (flat : command.endsAtClause = true) :
    ∃ taken mark, input = taken ++ (mark ++ rest) ∧ Closes mark rest ∧ ∀ other, Body keyword command taken other := by
  cases phrase with
  | createTable | dropTable | insert => cases flat
  | @select _ _ _ _ b table _ _ _ _ a distinct projection joined closed =>
    obtain ⟨mark, rfl, closes⟩ := closes_of_end closed
    obtain ⟨join, rfl, last, joined⟩ := joined_framed _ _ _ joined
    obtain ⟨columns, rfl, second, projection⟩ := selection_framed _ _ _ projection
    obtain ⟨word, rfl, first, distinct⟩ := distinct_framed _ _ _ distinct
    refine ⟨⟨.keyword .SELECT, a⟩ :: (word ++ (columns ++ ⟨.keyword .FROM, b⟩ :: ⟨.ident, table⟩ :: join)), mark, by simp,
      closes, fun other => ⟨?_, fun rest closes => ?_⟩⟩
    · exact .cons nofun (first.append (second.append (.cons nofun (.cons nofun last))))
    · simp only [List.cons_append, List.append_assoc]
      exact .select (distinct _) (projection _) (joined _) closes.closed
  | update settings closed =>
    obtain ⟨mark, rfl, closes⟩ := closes_of_end closed
    obtain ⟨list, rfl, own, settings⟩ := separated_framed setting_framed _ _ _ settings
    refine ⟨_ :: _ :: _ :: list, mark, rfl, closes, fun other => ⟨.cons nofun (.cons nofun (.cons nofun own)), ?_⟩⟩
    exact fun rest closes => .update (settings _) closes.closed
  | delete closed =>
    obtain ⟨mark, rfl, closes⟩ := closes_of_end closed
    refine ⟨[_, _, _], mark, rfl, closes, fun other => ⟨.cons nofun (.cons nofun (.cons nofun masked_nil)), ?_⟩⟩
    exact fun rest closes => .delete closes.closed
  | filter expression closed =>
    obtain ⟨mark, rfl, closes⟩ := closes_of_end closed
    obtain ⟨condition, rfl, own, expression⟩ := expression_framed _ _ _ expression
    exact ⟨_ :: condition, mark, rfl, closes, fun other =>
      ⟨.cons nofun own, fun rest closes => .filter (expression _) closes.closed⟩⟩
  | orderBy listed closed =>
    obtain ⟨mark, rfl, closes⟩ := closes_of_end closed
    obtain ⟨keys, rfl, own, listed⟩ := separated_framed key_framed _ _ _ listed
    exact ⟨_ :: _ :: keys, mark, rfl, closes, fun other =>
      ⟨.cons nofun (.cons nofun own), fun rest closes => .orderBy (listed _) closes.closed⟩⟩
  | limit count closed =>
    obtain ⟨mark, rfl, closes⟩ := closes_of_end closed
    obtain ⟨number, rfl, own, count⟩ := count_framed _ _ _ count
    exact ⟨_ :: number, mark, rfl, closes, fun other =>
      ⟨.cons nofun own, fun rest closes => .limit (count _) closes.closed⟩⟩
  | offset count closed =>
    obtain ⟨mark, rfl, closes⟩ := closes_of_end closed
    obtain ⟨number, rfl, own, count⟩ := count_framed _ _ _ count
    exact ⟨_ :: number, mark, rfl, closes, fun other =>
      ⟨.cons nofun own, fun rest closes => .offset (count _) closes.closed⟩⟩

theorem phrase_framed {keyword : Keyword} {command : Command} (phrase : Phrase keyword input command rest) :
    ∃ taken mark, input = taken ++ (mark ++ rest) ∧ Closes mark rest ∧ Body keyword command taken mark := by
  by_cases flat : command.endsAtClause = true
  · obtain ⟨taken, mark, shape, closes, body⟩ := phrase_open phrase flat
    exact ⟨taken, mark, shape, closes, body mark⟩
  cases phrase with
  | createTable plain listed =>
    obtain ⟨columns, rfl, own, listed⟩ := listed_framed declaration_framed _ _ _ listed
    refine ⟨_ :: _ :: _ :: columns, [_], rfl, .semicolon, ?_, fun rest closes => ?_⟩
    · exact .cons nofun (.cons nofun (.cons nofun own))
    · exact .createTable plain (listed _)
  | dropTable =>
    refine ⟨[_, _, _], [_], rfl, .semicolon, ?_, fun rest closes => .dropTable⟩
    exact .cons nofun (.cons nofun (.cons nofun masked_nil))
  | insert listed =>
    obtain ⟨values, rfl, own, listed⟩ := listed_framed constant_framed _ _ _ listed
    refine ⟨_ :: _ :: _ :: _ :: values, [_], rfl, .semicolon, ?_, fun rest closes => ?_⟩
    · exact .cons nofun (.cons nofun (.cons nofun (.cons nofun own)))
    · exact .insert (listed _)
  | select | update | delete | filter | orderBy | limit | offset => exact absurd rfl flat

variable {commands : List Command}

theorem phrases_more (phrases : Phrases input commands rest) : Phrases (input ++ more) commands (rest ++ more) := by
  induction phrases with
  | nil => exact .nil
  | cons first _ ih =>
    obtain ⟨taken, mark, rfl, closes, body⟩ := phrase_framed first
    simp only [List.append_assoc]
    exact .cons (body.anywhere _ closes.append) ih

theorem phrases_closed (phrases : Phrases input commands []) : ∀ token ∈ input.getLast?, token.kind = .semicolon := by
  induction commands generalizing input with
  | nil =>
    obtain rfl := phrases_nil.mp phrases
    exact fun _ member => nomatch member
  | cons command commands ih =>
    obtain ⟨middle, first, others⟩ := phrases_cons.mp phrases
    obtain ⟨taken, mark, rfl, closes, _⟩ := phrase_framed first
    intro token member
    cases middle with
    | nil =>
      cases closes with
      | semicolon =>
        rw [List.append_nil, List.getLast?_append_of_ne_nil _ (List.cons_ne_nil _ _)] at member
        cases member
        rfl
      | clause ahead => exact absurd ahead Parser.not_ahead_nil
    | cons head middle =>
      rw [← List.append_assoc, List.getLast?_append_of_ne_nil _ (List.cons_ne_nil _ _)] at member
      exact ih others token member

/-- A semicolon with no apostrophe behind it is none of those that a command quotes. -/
theorem Masked.behind {others : List Token} (masked : Masked taken) (shape : front ++ semicolon :: back = taken ++ others)
    (kind : semicolon.kind = .semicolon) (bare : ¬ Ahead .apostrophe back) :
    ∃ between, front = taken ++ between ∧ others = between ++ semicolon :: back := by
  rcases List.append_eq_append_iff.mp shape with ⟨inside, covered, behind⟩ | ⟨between, covered, behind⟩
  · cases inside with
    | nil => exact ⟨[], by simpa using covered.symm, behind.symm⟩
    | cons head inside =>
      cases behind
      exact absurd (ahead_append (masked front semicolon inside covered kind)) bare
  · exact ⟨between, covered, behind⟩

/-- A semicolon with no apostrophe behind it ends a command. -/
theorem phrases_split (phrases : Phrases (front ++ semicolon :: back) commands [])
    (kind : semicolon.kind = .semicolon) (bare : ¬ Ahead .apostrophe back) :
    ∃ earlier later, commands = earlier ++ later ∧ Phrases (front ++ [semicolon]) earlier [] ∧ Phrases back later [] := by
  induction commands generalizing front with
  | nil =>
    have empty := phrases_nil.mp phrases
    cases front <;> cases empty
  | cons command commands ih =>
    obtain ⟨middle, first, others⟩ := phrases_cons.mp phrases
    obtain ⟨taken, mark, shape, closes, body⟩ := phrase_framed first
    obtain ⟨between, rfl, behind⟩ := body.masked.behind shape kind bare
    cases closes with
    | @semicolon spelling =>
      cases between with
      | nil =>
        cases behind
        exact ⟨[command], commands, rfl, .cons (by simpa using body.anywhere [] .semicolon) .nil, others⟩
      | cons head between =>
        cases behind
        obtain ⟨earlier, later, rfl, own, rest⟩ := ih others
        refine ⟨command :: earlier, later, rfl, ?_, rest⟩
        rw [List.append_assoc]
        exact .cons (body.anywhere _ .semicolon) own
    | @clause _ opening ahead =>
      rw [List.nil_append] at behind
      subst behind
      obtain ⟨earlier, later, rfl, own, rest⟩ := ih others
      refine ⟨command :: earlier, later, rfl, ?_, rest⟩
      rw [List.append_assoc]
      refine .cons (body.anywhere _ (@Closes.clause _ opening ?_)) own
      obtain ⟨literal, tail, shape⟩ := ahead
      cases between with
      | nil =>
        cases shape
        cases kind
      | cons head between =>
        cases shape
        exact ⟨literal, between ++ [semicolon], rfl⟩

end MiniSql.Grammar

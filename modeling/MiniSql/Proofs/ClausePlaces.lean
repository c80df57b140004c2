import MiniSql.Proofs.GrammarExtent

/-! Where clauses start. The keyword of a clause starts a command unless it is quoted, and how the command in front of it
is marked off is of no account: a semicolon may be left out there, or put there. LIMIT and OFFSET side by side may
change places between their marks. -/

namespace MiniSql

def TokenKind.opensClause : TokenKind → Bool
  | .keyword .WHERE | .keyword .ORDER | .keyword .LIMIT | .keyword .OFFSET => true
  | _ => false

namespace Grammar
open Command (Chained clause)

/-- The next token is the keyword of a clause. -/
def OpensClause (tokens : List Token) : Prop := ∃ kind : ClauseKind, Ahead (.keyword kind.keyword) tokens

/-- What stands between is a quoted value: an apostrophe is on either side of it. -/
def Quoted (front back : List Token) : Prop := (∃ token ∈ front.getLast?, token.kind = .apostrophe) ∧ Ahead .apostrophe back

/-- No clause starts between the two places: what looks like the keyword of one is quoted. -/
inductive Passes : List Token → List Token → Prop where
  | here : Passes rest rest
  | plain (other : token.kind.opensClause = false) (more : Passes input rest) : Passes (token :: input) rest
  | quoted (more : Passes input rest) : Passes (⟨.apostrophe, opening⟩ :: token :: ⟨.apostrophe, closing⟩ :: input) rest

variable {rule : Rule α} {input middle rest tokens front back marks : List Token} {token word : Token}
  {commands : List Command}

private theorem Quoted.cons (quoted : Quoted front back) : Quoted (token :: front) back := by
  obtain ⟨⟨last, member, apostrophe⟩, behind⟩ := quoted
  exact ⟨⟨last, by rw [List.getLast?_cons, Option.mem_def.mp member]; rfl, apostrophe⟩, behind⟩

private theorem opensClause_iff : OpensClause tokens ↔ ∃ word rest, tokens = word :: rest ∧ word.kind.opensClause = true := by
  constructor
  · rintro ⟨kind, literal, rest, rfl⟩
    exact ⟨_, rest, rfl, by cases kind <;> rfl⟩
  · rintro ⟨⟨kind, literal⟩, rest, rfl, opens⟩
    unfold TokenKind.opensClause at opens
    split at opens
    next same => exact ⟨.filter, literal, rest, by simp_all [ClauseKind.keyword]⟩
    next same => exact ⟨.orderBy, literal, rest, by simp_all [ClauseKind.keyword]⟩
    next same => exact ⟨.limit, literal, rest, by simp_all [ClauseKind.keyword]⟩
    next same => exact ⟨.offset, literal, rest, by simp_all [ClauseKind.keyword]⟩
    next => cases opens

private theorem Passes.trans (first : Passes input middle) (second : Passes middle rest) : Passes input rest := by
  induction first with
  | here => exact second
  | plain other _ ih => exact .plain other (ih second)
  | quoted _ ih => exact .quoted (ih second)

/-- The rule takes no keyword of a clause but as a quoted value. -/
def Skips (rule : Rule α) : Prop := ∀ input value rest, rule input value rest → Passes input rest

private theorem others_skips (skips : Skips rule) : Skips (Others rule) := by
  intro input values rest others
  induction others with
  | none => exact .here
  | next one _ ih => exact .plain rfl ((skips _ _ _ one).trans ih)

theorem separated_skips (skips : Skips rule) : Skips (Separated rule) := by
  intro input values rest ⟨first, others⟩
  exact (skips _ _ _ first).trans (others_skips skips _ _ _ others)

private theorem listed_skips (skips : Skips rule) : Skips (Listed rule) := by
  intro input values rest listed
  cases listed with
  | none => exact .plain rfl (.plain rfl .here)
  | some items => exact .plain rfl ((separated_skips skips _ _ _ items).trans (.plain rfl .here))

private theorem constant_skips : Skips Constant := by
  intro input value rest constant
  cases constant with
  | number | null => exact .plain rfl .here
  | quoted => exact .quoted .here

private theorem expression_skips {level : Level} : Skips (Expression level) := by
  intro input condition rest derivation
  induction derivation with
  | conjunction _ ih | operand _ ih => exact ih
  | or _ _ left right | and _ _ left right => exact left.trans (.plain rfl right)
  | parentheses _ ih => exact .plain rfl (ih.trans (.plain rfl .here))
  | true | false => exact .plain rfl .here
  | @compare _ _ _ _ token comparison sign right =>
    have other : token.kind.opensClause = false := by rw [sign]; cases comparison <;> rfl
    exact .plain rfl (.plain other (constant_skips _ _ _ right))
  | @member _ _ _ _ _ token _ membership sign list =>
    have other : token.kind.opensClause = false := by rw [sign]; cases membership <;> rfl
    have values := separated_skips constant_skips _ _ _ list
    exact .plain rfl (.plain other (.plain rfl (values.trans (.plain rfl .here))))

private theorem declaration_skips : Skips Declaration := by
  rintro _ _ rest @⟨_, token, _, datatype, _, type⟩
  have other : token.kind.opensClause = false := by rw [type]; cases datatype <;> rfl
  exact .plain rfl (.plain other .here)

private theorem item_skips : Skips Item := by
  intro input item rest chosen
  cases chosen with
  | column => exact .plain rfl .here
  | @aggregate token _ _ _ _ function name =>
    have other : token.kind.opensClause = false := by rw [name]; cases function <;> rfl
    exact .plain other (.plain rfl (.plain rfl (.plain rfl .here)))

private theorem selection_skips : Skips Selection := by
  intro input columns rest selection
  cases selection with
  | all => exact .plain rfl .here
  | items listed => exact separated_skips item_skips _ _ _ listed

private theorem distinct_skips : Skips Distinct := by
  intro input repeated rest distinct
  cases distinct with
  | absent => exact .here
  | present => exact .plain rfl .here

theorem operands_skips {kind : JoinKind} : Skips (Operands kind) := by
  intro input join rest ⟨⟩
  exact .plain rfl (.plain rfl (.plain rfl (.plain rfl (.plain rfl (.plain rfl .here)))))

private theorem joined_skips : Skips Joined := by
  intro input join rest joined
  cases joined with
  | absent => exact .here
  | plain operands => exact operands_skips _ _ _ operands
  | @ofKind _ _ _ token kind name operands =>
    have other : token.kind.opensClause = false := by rw [name]; cases kind <;> rfl
    exact .plain other (operands_skips _ _ _ operands)

theorem setting_skips : Skips Setting := by
  intro input setting rest ⟨right⟩
  exact .plain rfl (.plain rfl (constant_skips _ _ _ right))

private theorem key_skips : Skips Key := by
  rintro _ _ rest @⟨_, token, _, direction, word⟩
  have other : token.kind.opensClause = false := by rw [word]; cases direction <;> rfl
  exact .plain rfl (.plain other .here)

theorem count_skips : Skips Count := by
  intro input number rest ⟨_, _⟩
  exact .plain rfl .here

private theorem end_passes (closed : End input rest) : Passes input rest := by
  cases closed with
  | semicolon => exact .plain rfl .here
  | clause => exact .here

private theorem phrase_passes {keyword : Keyword} {command : Command} (phrase : Phrase keyword (token :: input) command rest) :
    Passes input rest := by
  cases phrase with
  | createTable _ listed =>
    exact .plain rfl (.plain rfl ((listed_skips declaration_skips _ _ _ listed).trans (.plain rfl .here)))
  | dropTable => exact .plain rfl (.plain rfl (.plain rfl .here))
  | insert listed =>
    exact .plain rfl (.plain rfl (.plain rfl ((listed_skips constant_skips _ _ _ listed).trans (.plain rfl .here))))
  | select distinct projection joined closed =>
    have source := (joined_skips _ _ _ joined).trans (end_passes closed)
    have columns := (distinct_skips _ _ _ distinct).trans (selection_skips _ _ _ projection)
    exact columns.trans (.plain rfl (.plain rfl source))
  | update settings closed =>
    exact .plain rfl (.plain rfl ((separated_skips setting_skips _ _ _ settings).trans (end_passes closed)))
  | delete closed => exact .plain rfl (.plain rfl (end_passes closed))
  | filter expression closed => exact (expression_skips _ _ _ expression).trans (end_passes closed)
  | orderBy listed closed => exact .plain rfl ((separated_skips key_skips _ _ _ listed).trans (end_passes closed))
  | limit count closed | offset count closed => exact (count_skips _ _ _ count).trans (end_passes closed)

theorem Passes.behind (passes : Passes input rest) (shape : input = front ++ word :: back)
    (opens : word.kind.opensClause = true) (bare : ¬ Quoted front back) :
    ∃ between, rest = between ++ word :: back ∧ ¬ Quoted between back := by
  induction passes generalizing front with
  | here => exact ⟨front, shape, bare⟩
  | plain other _ ih =>
    cases front with
    | nil =>
      cases shape
      cases other.symm.trans opens
    | cons head front => exact ih (List.cons.inj shape).2 fun quoted => bare quoted.cons
  | @quoted _ _ _ _ closing more ih =>
    -- The keyword is neither apostrophe, and between them it would be quoted.
    match front with
    | [] =>
      cases shape
      cases opens
    | [head] =>
      cases shape
      exact absurd ⟨⟨_, rfl, rfl⟩, closing, _, rfl⟩ bare
    | [head, inner] =>
      cases shape
      cases opens
    | _ :: _ :: _ :: front =>
      simp only [List.cons_append, List.cons.injEq] at shape
      exact ih shape.2.2.2 fun quoted => bare quoted.cons.cons.cons

/-- The keyword of a clause that is not quoted starts a command. -/
theorem phrases_at_clause (phrases : Phrases (front ++ word :: back) commands []) (opens : word.kind.opensClause = true)
    (bare : ¬ Quoted front back) :
    ∃ earlier later, commands = earlier ++ later ∧ Phrases (front ++ word :: back) earlier (word :: back) ∧
      Phrases (word :: back) later [] := by
  induction commands generalizing front with
  | nil =>
    have empty := phrases_nil.mp phrases
    cases front <;> cases empty
  | cons command commands ih =>
    cases front with
    | nil => exact ⟨[], command :: commands, rfl, .nil, phrases⟩
    | cons head front =>
      have inner : ¬ Quoted front back := fun quoted => bare quoted.cons
      obtain ⟨middle, first, others⟩ := phrases_cons.mp phrases
      obtain ⟨between, rfl, free⟩ := (phrase_passes first).behind rfl opens inner
      obtain ⟨earlier, later, rfl, read, behind⟩ := ih others free
      exact ⟨command :: earlier, later, rfl, .cons first read, behind⟩

private theorem OpensClause.of_ahead {kind : TokenKind} (opens : OpensClause tokens) (here : Ahead kind tokens) (there : Ahead kind rest) :
    OpensClause rest := by
  obtain ⟨clause, _, _, rfl⟩ := opens
  obtain ⟨_, _, same⟩ := here
  cases same
  exact ⟨clause, there⟩

private theorem opensClause_append (opens : OpensClause (front ++ tokens)) (again : OpensClause tokens → OpensClause rest) :
    OpensClause (front ++ rest) := by
  cases front with
  | nil => exact again opens
  | cons head front =>
    obtain ⟨kind, literal, others, shape⟩ := opens
    cases shape
    exact ⟨kind, literal, front ++ rest, rfl⟩

private theorem phrases_before (phrases : Phrases input commands rest) :
    ∃ taken, input = taken ++ rest ∧
      ∀ other, (OpensClause rest → OpensClause other) → Phrases (taken ++ other) commands other := by
  induction phrases with
  | nil => exact ⟨[], rfl, fun _ _ => .nil⟩
  | cons first _ ih =>
    obtain ⟨taken, mark, rfl, closes, body⟩ := phrase_framed first
    obtain ⟨between, rfl, others⟩ := ih
    refine ⟨taken ++ (mark ++ between), by simp, fun other opens => ?_⟩
    -- Only the last command can be next to the other tokens, and then nothing is between.
    have closed : Closes mark (between ++ other) := by
      cases closes with
      | semicolon => exact .semicolon
      | clause ahead =>
        obtain ⟨kind, ahead⟩ := opensClause_append ⟨_, ahead⟩ opens
        exact .clause ahead
    simpa using Phrases.cons (body.anywhere _ closed) (others other opens)

/-- A command that may stand in front of a clause may be marked off in any way. -/
theorem phrases_open {earlier : List Command} {last : Command} (phrases : Phrases input (earlier ++ [last]) rest)
    (flat : last.endsAtClause = true) :
    ∃ taken mark, input = taken ++ (mark ++ rest) ∧ Closes mark rest ∧
      ∀ mark other, Closes mark other → Phrases (taken ++ (mark ++ other)) (earlier ++ [last]) other := by
  obtain ⟨middle, front, own⟩ := phrases_append.mp phrases
  obtain ⟨_, phrase, alone⟩ := phrases_cons.mp own
  obtain rfl := phrases_nil.mp alone
  obtain ⟨before, rfl, anywhere⟩ := phrases_before front
  obtain ⟨taken, mark, rfl, closes, body⟩ := phrase_open phrase flat
  refine ⟨before ++ taken, mark, by simp, closes, fun mark other closes => ?_⟩
  have again := (body mark).anywhere other closes
  have ahead := anywhere (taken ++ (mark ++ other)) fun opens =>
    opens.of_ahead (Parser.phrase_ahead phrase) (Parser.phrase_ahead again)
  rw [List.append_assoc]
  exact phrases_append.mpr ⟨_, ahead, .cons again .nil⟩

/-- Where a keyword of a clause is next, that clause is the next command. -/
theorem phrases_from_clause {kind : ClauseKind} {spelling : String}
    (phrases : Phrases (⟨.keyword kind.keyword, spelling⟩ :: tokens) commands []) :
    ∃ part later rest, commands = clause part :: later ∧ part.kind = kind ∧
      Phrase kind.keyword (⟨.keyword kind.keyword, spelling⟩ :: tokens) (clause part) rest ∧ Phrases rest later [] := by
  cases commands with
  | nil => cases phrases_nil.mp phrases
  | cons command later =>
    obtain ⟨rest, phrase, others⟩ := phrases_cons.mp phrases
    obtain ⟨_, _, same⟩ := Parser.phrase_ahead phrase
    simp only [List.cons.injEq, Token.mk.injEq, TokenKind.keyword.injEq] at same
    rw [← same.1.1] at phrase
    obtain ⟨part, rfl, own⟩ := Parser.phrase_clause phrase
    exact ⟨part, later, rest, rfl, own, phrase, others⟩

private theorem in_front_of_clause {earlier later : List Command} (chained : Chained (earlier ++ later)) (phrases : Phrases tokens later [])
    (opens : OpensClause tokens) : ∃ older last, earlier = older ++ [last] ∧ last.endsAtClause = true := by
  obtain ⟨kind, literal, rest, rfl⟩ := opens
  obtain ⟨part, later, _, rfl, _⟩ := phrases_from_clause phrases
  exact chained.in_front

/-- A semicolon in front of a clause may be left out. -/
theorem phrases_flat (phrases : Phrases (front ++ ⟨.semicolon, ";"⟩ :: back) commands []) (chained : Chained commands)
    (opens : OpensClause back) : Phrases (front ++ back) commands [] := by
  have bare : ¬ Ahead .apostrophe back := by
    rintro ⟨_, _, rfl⟩
    obtain ⟨_, _, _, shape⟩ := opens
    cases shape
  obtain ⟨earlier, later, rfl, before, behind⟩ := phrases_split phrases rfl bare
  obtain ⟨older, last, rfl, flat⟩ := in_front_of_clause chained behind opens
  obtain ⟨taken, mark, shape, closes, anywhere⟩ := phrases_open before flat
  cases closes with
  | clause ahead => exact absurd ahead Parser.not_ahead_nil
  | semicolon =>
    obtain ⟨rfl, _⟩ := List.append_inj' shape rfl
    obtain ⟨kind, ahead⟩ := opens
    exact phrases_append.mpr ⟨back, anywhere [] back (.clause ahead), behind⟩

/-- A semicolon may be put in front of a clause where there is none. -/
theorem phrases_chained (phrases : Phrases (front ++ back) commands []) (chained : Chained commands) (opens : OpensClause back)
    (bare : ¬ Quoted front back.tail) (unmarked : ∀ token ∈ front.getLast?, token.kind ≠ .semicolon) :
    Phrases (front ++ ⟨.semicolon, ";"⟩ :: back) commands [] := by
  obtain ⟨word, rest, rfl, own⟩ := opensClause_iff.mp opens
  obtain ⟨earlier, later, rfl, before, behind⟩ := phrases_at_clause phrases own bare
  obtain ⟨older, last, rfl, flat⟩ := in_front_of_clause chained behind opens
  obtain ⟨taken, mark, shape, closes, anywhere⟩ := phrases_open before flat
  rw [← List.append_assoc] at shape
  obtain rfl := List.append_cancel_right shape
  cases closes with
  | semicolon => exact absurd rfl (unmarked _ (List.getLast?_concat))
  | clause ahead =>
    rw [List.append_nil]
    exact phrases_append.mpr ⟨_, anywhere [_] _ .semicolon, behind⟩

private theorem phrase_counted {kind : ClauseKind} {command : Command} {number : Token} (counts : kind = .limit ∨ kind = .offset)
    (phrase : Phrase kind.keyword (word :: number :: tokens) command rest) :
    End tokens rest ∧ ∀ other left, End other left → Phrase kind.keyword (word :: number :: other) command left := by
  rcases counts with rfl | rfl
  · cases phrase with
    | limit count closed =>
      cases count with
      | intro decimal bound => exact ⟨closed, fun _ _ closed => .limit (.intro decimal bound) closed⟩
  · cases phrase with
    | offset count closed =>
      cases count with
      | intro decimal bound => exact ⟨closed, fun _ _ closed => .offset (.intro decimal bound) closed⟩

theorem end_marks (semicolons : ∀ token ∈ marks, token.kind = .semicolon) (opens : OpensClause tokens)
    (closed : End (marks ++ tokens) rest) (others : Phrases rest commands []) :
    rest = tokens ∧ ∀ other, OpensClause other → End (marks ++ other) other := by
  obtain ⟨kind, literal, behind, rfl⟩ := opens
  match marks with
  | [] =>
    cases closed
    exact ⟨rfl, fun other opens => .clause opens.choose_spec⟩
  | [mark] =>
    obtain ⟨sort, spelling⟩ := mark
    obtain rfl : sort = .semicolon := semicolons _ List.mem_cons_self
    cases closed with
    | semicolon => exact ⟨rfl, fun other _ => .semicolon⟩
    | clause ahead =>
      obtain ⟨_, _, shape⟩ := ahead
      cases shape
  | mark :: next :: more =>
    obtain ⟨sort, spelling⟩ := mark
    obtain rfl : sort = .semicolon := semicolons _ List.mem_cons_self
    have second : next.kind = .semicolon := semicolons _ (by simp)
    cases closed with
    | semicolon =>
      cases others with
      | cons first =>
        obtain ⟨_, _, shape⟩ := Parser.phrase_ahead first
        cases shape
        cases second
    | clause ahead =>
      obtain ⟨_, _, shape⟩ := ahead
      cases shape

variable {kind other : ClauseKind} {a b m n : String}

/-- LIMIT and OFFSET may change places, if each mark stays in its own. -/
theorem phrases_swapped (swaps : Command.Swaps kind other) (semicolons : ∀ token ∈ marks, token.kind = .semicolon)
    (phrases : Phrases (front ++ ⟨.keyword kind.keyword, a⟩ :: ⟨.literal, m⟩ ::
      (marks ++ ⟨.keyword other.keyword, b⟩ :: ⟨.literal, n⟩ :: back)) commands []) :
    ∃ earlier first second later, commands = earlier ++ clause first :: clause second :: later ∧
      Command.Swaps first.kind second.kind ∧
      Phrases (front ++ ⟨.keyword other.keyword, b⟩ :: ⟨.literal, n⟩ ::
        (marks ++ ⟨.keyword kind.keyword, a⟩ :: ⟨.literal, m⟩ :: back)) (earlier ++ clause second :: clause first :: later) [] := by
  have counts : (kind = .limit ∨ kind = .offset) ∧ (other = .limit ∨ other = .offset) := by cases swaps <;> simp
  have opens (kind : ClauseKind) (spelling : String) (rest : List Token) :
      OpensClause (⟨.keyword kind.keyword, spelling⟩ :: rest) := ⟨kind, spelling, rest, rfl⟩
  have bare : ¬ Quoted front (⟨.literal, m⟩ :: (marks ++ ⟨.keyword other.keyword, b⟩ :: ⟨.literal, n⟩ :: back)) := by
    rintro ⟨_, _, _, shape⟩
    cases shape
  obtain ⟨earlier, later, rfl, before, behind⟩ := phrases_at_clause phrases (by cases kind <;> rfl) bare
  obtain ⟨first, later, middle, rfl, rfl, one, behind⟩ := phrases_from_clause behind
  obtain ⟨closed, again⟩ := phrase_counted counts.1 one
  obtain ⟨rfl, marked⟩ := end_marks semicolons (opens other b _) closed behind
  obtain ⟨second, later, rest, rfl, rfl, two, behind⟩ := phrases_from_clause behind
  obtain ⟨last, anew⟩ := phrase_counted counts.2 two
  obtain ⟨taken, shape, anywhere⟩ := phrases_before before
  obtain rfl := List.append_cancel_right shape
  refine ⟨earlier, first, second, later, rfl, swaps, phrases_append.mpr ⟨_, anywhere _ fun _ => opens .., ?_⟩⟩
  exact .cons (anew _ _ (marked _ (opens ..))) (.cons (again _ _ last) behind)

end Grammar

end MiniSql

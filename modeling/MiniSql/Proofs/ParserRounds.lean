import MiniSql.Proofs.Lexemes
import MiniSql.Proofs.ParserProgress

/-! The loops of the parser end by themselves. The bounds that they are written with never decide anything: each loop is
the one that goes on as long as the next token asks for it, every round of it leaves fewer tokens in front of the end, and
a condition inside parentheses is read as any condition is, to every depth. -/

namespace MiniSql.Parser
open ParseState

/-- A loop that goes on as long as the state says so: the rounds that it makes and what it comes to. There is no bound
in it, but every round leaves fewer tokens. -/
inductive Rounds (goes : ParseState → Prop) (round : α → Parser α) :
    α → ParseState → Nat → Except Error (α × ParseState) → Prop
  | stop {known : α} {state : ParseState} (closed : ¬ goes state) : Rounds goes round known state 0 (.ok (known, state))
  | fail {known : α} {state : ParseState} {error : Error} (opened : goes state)
      (failed : (round known).run state = .error error) : Rounds goes round known state 1 (.error error)
  | next {known further : α} {state after : ParseState} {made : Nat} {result : Except Error (α × ParseState)}
      (opened : goes state) (done : (round known).run state = .ok (further, after)) (fewer : after.left < state.left)
      (others : Rounds goes round further after made result) : Rounds goes round known state (made + 1) result

section Rounds
variable {goes : ParseState → Prop} {round : α → Parser α} {known : α} {state : ParseState} {made : Nat}
  {result : Except Error (α × ParseState)}

private theorem Rounds.made_le (inside : ∀ state, goes state → ¬ state.At .eof)
    (rounds : Rounds goes round known state made result) : made ≤ state.left := by
  induction rounds with
  | stop => exact Nat.zero_le _
  | fail opened => exact left_pos (inside _ opened)
  | next _ _ fewer _ ih => omega

/-- A loop whose rounds move forward ends. -/
theorem exists_rounds (goes : ParseState → Prop) (advances : ∀ known, Advances 1 (round known)) (known : α)
    (state : ParseState) : ∃ made result, Rounds goes round known state made result := by
  generalize size : state.left = left
  induction left using Nat.strong_induction_on generalizing known state with
  | _ left ih =>
    by_cases opened : goes state
    · cases done : (round known).run state with
      | error error => exact ⟨1, _, .fail opened done⟩
      | ok last =>
        obtain ⟨further, after⟩ := last
        have fewer : after.left < state.left := (advances known state further after done).left
        obtain ⟨made, result, others⟩ := ih after.left (size ▸ fewer) further after rfl
        exact ⟨made + 1, result, .next opened done fewer others⟩
    · exact ⟨0, _, .stop opened⟩

/-- A recursion with a bound does what the loop does, if the bound is not less than the rounds. -/
theorem Rounds.run_eq (loop : Nat → α → Parser β) (finish : α → Parser β) (valid : ParseState → Prop)
    (repeats : ∀ bound known state, goes state →
      (loop (bound + 1) known).run state = (round known >>= loop bound).run state)
    (stops : ∀ bound known state, valid state → ¬ goes state → (loop bound known).run state = (finish known).run state)
    (keeps : ∀ known state further after, valid state → (round known).run state = .ok (further, after) → valid after)
    (rounds : Rounds goes round known state made result) (holds : valid state) {bound : Nat} (enough : made ≤ bound) :
    (loop bound known).run state = result >>= fun last => (finish last.1).run last.2 := by
  induction rounds generalizing bound with
  | stop closed => exact stops bound _ _ holds closed
  | fail opened failed =>
    obtain ⟨bound, rfl⟩ := Nat.exists_eq_add_of_le' enough
    rw [repeats _ _ _ opened, StateT.run_bind, failed]
    rfl
  | next opened done _ _ ih =>
    obtain ⟨bound, rfl⟩ := Nat.exists_eq_add_of_le' (Nat.le_trans (Nat.le_add_left 1 _) enough)
    rw [repeats _ _ _ opened, StateT.run_bind, done]
    exact ih (keeps _ _ _ _ holds done) (Nat.le_of_succ_le_succ enough)

end Rounds

section Tokens
variable {kind : TokenKind} {state : ParseState}

private theorem accept_present {next : Bool → Parser α} (here : state.At kind) :
    (accept kind >>= next).run state = (next true).run { state with rest := state.rest.tail } := by
  have same : (state.rest.headD Token.eof).kind = kind := here
  rw [accept, bind_assoc]
  change ((if (state.rest.headD Token.eof).kind = kind then _ else _ : Parser Bool) >>= next).run state = _
  rw [if_pos same]
  rfl

private theorem accept_absent {next : Bool → Parser α} (absent : ¬ state.At kind) :
    (accept kind >>= next).run state = (next false).run state := by
  have different : ¬ (state.rest.headD Token.eof).kind = kind := absent
  rw [accept, bind_assoc]
  change ((if (state.rest.headD Token.eof).kind = kind then _ else _ : Parser Bool) >>= next).run state = _
  rw [if_neg different]
  rfl

private theorem skip_present {next : Unit → Parser α} (here : state.At kind) :
    (discard (expect kind) >>= next).run state = (next ()).run { state with rest := state.rest.tail } := by
  have same : (state.rest.headD Token.eof).kind = kind := here
  have taken : (expect kind).run state = .ok (state.rest.headD Token.eof, { state with rest := state.rest.tail }) := by
    change (if (state.rest.headD Token.eof).kind = kind then _ else _ : Parser Token).run state = _
    rw [if_pos same]
    rfl
  change (((fun _ => ()) <$> expect kind : Parser Unit) >>= next).run state = _
  rw [bind_map_left, StateT.run_bind, taken]
  rfl

end Tokens

def nextItem (item : Parser α) (items : List α) : Parser (List α) := do
  discard (expect .comma)
  return items ++ [← item]

private theorem nextItem_advances {least : Nat} {item : Parser α} (advances : Advances least item) (items : List α) :
    Advances 1 (nextItem item items) :=
  (skip_advances (by decide)).before fun _ => advances.also fun _ => .pure _

private theorem moreItems_rounds {item : Parser α} {first : List α} {state : ParseState} {made bound : Nat}
    {result : Except Error (List α × ParseState)} (rounds : Rounds (At .comma) (nextItem item) first state made result)
    (enough : made ≤ bound) : ((first ++ ·) <$> moreItems item bound).run state = result := by
  have same := rounds.run_eq (fun bound items => (items ++ ·) <$> moreItems item bound) pure (fun _ => True) ?_ ?_
    (fun _ _ _ _ _ _ => trivial) trivial enough
  · rw [same]
    cases result <;> rfl
  · intro bound items state opened
    rw [nextItem, bind_assoc, skip_present opened, moreItems, map_eq_pure_bind, bind_assoc, accept_present opened]
    simp
  · intro bound items state _ closed
    cases bound with
    | zero => simp [moreItems]
    | succ bound =>
      rw [moreItems, map_eq_pure_bind, bind_assoc, accept_absent closed]
      simp

section Connectives
variable (connective : Keyword) (combine : Condition → Condition → Condition)

/-- One more operand, behind its connective. -/
def nextOperand (operand : Parser Condition) (left : Condition) : Parser Condition := do
  expectKeyword connective
  modify fun state => { state with connective := some connective }
  return combine left (← operand)

private theorem nextOperand_advances {least : Nat} {inner : Parser Condition} (advances : Advances least inner) (left : Condition) :
    Advances 1 (nextOperand connective combine inner left) :=
  (expectKeyword_advances connective).before fun _ => .connective (advances.also fun _ => .pure _)

private theorem moreOperands_rounds {inner : Parser Condition} {first : Condition} {state : ParseState} {made bound : Nat}
    {result : Except Error (Condition × ParseState)}
    (rounds : Rounds (At (.keyword connective)) (nextOperand connective combine inner) first state made result)
    (enough : made ≤ bound) : (moreOperands connective combine inner bound first).run state = result := by
  have same := rounds.run_eq (moreOperands connective combine inner) pure (fun _ => True) ?_ ?_
    (fun _ _ _ _ _ _ => trivial) trivial enough
  · rw [same]
    cases result <;> rfl
  · intro bound left state opened
    rw [nextOperand, bind_assoc, expectKeyword, skip_present opened, moreOperands, accept_present opened]
    simp
  · intro bound left state _ closed
    cases bound with
    | zero => rfl
    | succ bound =>
      rw [moreOperands, accept_absent closed]
      rfl

end Connectives

section Nesting
variable {one other : Parser Condition} {state : ParseState}

private theorem operand_congr (same : ∀ inner : ParseState, inner.left < state.left → one.run inner = other.run inner) :
    (operand one).run state = (operand other).run state := by
  obtain ⟨_ | ⟨⟨kind, literal⟩, rest⟩, connective⟩ := state
  · rfl
  cases kind with
  | leftParen =>
    have fewer : ParseState.left ⟨rest, connective⟩ < ParseState.left ⟨⟨.leftParen, literal⟩ :: rest, connective⟩ := by
      simp [ParseState.left]
    have within (inner : Parser Condition) : (operand inner).run ⟨⟨.leftParen, literal⟩ :: rest, connective⟩ =
        (inner >>= fun condition => do
          if ← accept .rightParen then return condition else brokenCondition).run ⟨rest, connective⟩ := rfl
    rw [within, within, StateT.run_bind, StateT.run_bind, same _ fewer]
  | keyword word => cases word <;> rfl
  | _ => rfl

/-- Two parsers that agree here come to the same also with what is behind them, if that agrees on what they can leave. -/
theorem bind_congr_left {next : Condition → Parser α} {state : ParseState} (advances : Advances 0 one)
    (same : one.run state = other.run state) {following : Condition → Parser α}
    (rest : ∀ condition after, ParseState.left after ≤ state.left →
      (next condition).run after = (following condition).run after) :
    (one >>= next).run state = (other >>= following).run state := by
  rw [StateT.run_bind, StateT.run_bind, ← same]
  cases done : one.run state with
  | error error => rfl
  | ok last => exact rest last.1 last.2 (advances state last.1 last.2 done).left

private theorem moreOperands_congr {connective : Keyword} {combine : Condition → Condition → Condition} (advances : Advances 0 one)
    (same : ∀ inner : ParseState, inner.left ≤ state.left → one.run inner = other.run inner) (bound : Nat)
    (first : Condition) : (moreOperands connective combine one bound first).run state =
      (moreOperands connective combine other bound first).run state := by
  induction bound generalizing state first with
  | zero => rfl
  | succ bound ih =>
    by_cases opened : state.At (.keyword connective)
    · have goesOn (operand : Parser Condition) : (moreOperands connective combine operand (bound + 1) first).run state =
          (operand >>= fun second => moreOperands connective combine operand bound (combine first second)).run
            ⟨state.rest.tail, some connective⟩ := by
        rw [moreOperands, accept_present opened]
        rfl
      obtain ⟨token, rest, shape, real⟩ := cons_of_real (not_at_eof opened (by simp))
      have fewer : ParseState.left ⟨state.rest.tail, some connective⟩ ≤ state.left := by
        rw [shape, ParseState.left, ParseState.left, List.takeWhile_cons_of_pos (by simpa using real)]
        exact Nat.le_succ _
      rw [goesOn, goesOn]
      refine bind_congr_left advances (same _ fewer) fun second after less => ih ?_ _
      exact fun inner inside => same inner (by omega)
    · rw [moreOperands, moreOperands, accept_absent opened, accept_absent opened]
      rfl

private theorem chain_congr {connective : Keyword} {combine : Condition → Condition → Condition} (advances : Advances 0 one)
    (same : ∀ inner : ParseState, inner.left ≤ state.left → one.run inner = other.run inner) :
    (chain connective combine one).run state = (chain connective combine other).run state := by
  refine bind_congr_left advances (same state (Nat.le_refl _)) fun first after less => ?_
  exact moreOperands_congr advances (fun inner inside => same inner (by omega)) _ first

private theorem alternatives_congr (advances : Advances 0 one)
    (same : ∀ inner : ParseState, inner.left < state.left → one.run inner = other.run inner) :
    (chain .OR .or (chain .AND .and (operand one))).run state =
      (chain .OR .or (chain .AND .and (operand other))).run state := by
  have operands : Advances 1 (operand one) := operand_advances advances
  refine chain_congr (chain_advances _ _ operands).weaken fun middle inside => ?_
  refine chain_congr operands.weaken fun inner within => ?_
  exact operand_congr fun innermost less => same innermost (by omega)

/-- Two depths that are both beyond the number of tokens left are alike. -/
theorem condition_congr {depth more : Nat} (enough : state.left < depth) (also : state.left < more) :
    (condition depth).run state = (condition more).run state := by
  induction depth generalizing state more with
  | zero => omega
  | succ depth ih =>
    cases more with
    | zero => omega
    | succ more =>
      exact alternatives_congr (condition_advances depth).weaken fun inner less => ih (by omega) (by omega)

private theorem disjunction_run (state : ParseState) : disjunction.run state = (condition (state.rest.length + 1)).run state := by
  simp only [disjunction, StateT.run_bind, StateT.run_get, pure_bind]

/-- No bound on the depth: what is read inside parentheses is a condition again. -/
theorem disjunction_eq : disjunction = chain .OR .or (chain .AND .and (operand disjunction)) := by
  refine StateT.ext fun state => ?_
  rw [disjunction_run, condition]
  refine alternatives_congr (condition_advances _).weaken fun inner less => ?_
  have inside := state.left_le
  rw [disjunction_run]
  exact condition_congr (by omega) (Nat.lt_succ_of_le inner.left_le)

end Nesting

/-- One more command; a DELETE in front of it allows only its WHERE. -/
def nextCommand (before : List Command) : Parser (List Command) := do
  let next ← command before
  Command.checkDelete before (some next)
  return next :: before

private theorem nextCommand_advances (before : List Command) : Advances 1 (nextCommand before) :=
  (command_advances before).before fun next => .check _ fun _ => .pure (next :: before)

def lastCheck (before : List Command) : Except Error (List Command) := do
  Command.checkDelete before none
  return before.reverse

private theorem commands_rounds {before : List Command} {state : ParseState} {made bound : Nat}
    {result : Except Error (List Command × ParseState)}
    (rounds : Rounds (fun state => ¬ state.At .eof) nextCommand before state made result)
    (plain : ∀ token ∈ state.rest, token.kind ≠ .eof) (enough : made ≤ bound) :
    Prod.fst <$> (commands bound before).run state = result >>= fun last => lastCheck last.1 := by
  have same := rounds.run_eq commands (fun before => do
      Command.checkDelete before none
      return before.reverse) (fun state => ∀ token ∈ state.rest, token.kind ≠ .eof) ?_ ?_ ?_ plain enough
  · rw [same]
    cases result with
    | error error => rfl
    | ok last =>
      change Prod.fst <$> StateT.run (liftM (Command.checkDelete last.1 none) >>= fun _ => pure last.1.reverse) last.2 =
        Command.checkDelete last.1 none >>= fun _ => pure last.1.reverse
      cases Command.checkDelete last.1 none <;> rfl
  · intro bound before state opened
    obtain ⟨token, rest, shape, _⟩ := cons_of_real opened
    rw [shape, nextCommand, bind_assoc]
    simp only [commands, StateT.run_bind, StateT.run_get, pure_bind, bind_assoc, List.isEmpty_cons, Bool.false_eq_true,
      if_false]
  · intro bound before state plain closed
    have empty : state.rest = [] := by
      obtain ⟨_ | ⟨token, rest⟩, connective⟩ := state
      · rfl
      · exact absurd (plain token List.mem_cons_self) closed
    cases bound with
    | zero => rfl
    | succ bound => simp only [commands, StateT.run_bind, StateT.run_get, pure_bind, empty, List.isEmpty_nil, if_true]
  · intro before state further after plain done
    obtain ⟨taken, shape, _⟩ := nextCommand_advances before state further after done
    exact fun token member => plain token (shape ▸ List.mem_append_right _ member)

private theorem parse_rounds {text : String} {made : Nat} {result : Except Error (List Command × ParseState)}
    (rounds : Rounds (fun state => ¬ state.At .eof) nextCommand [] ⟨Token.scan text, none⟩ made result)
    (enough : made ≤ (Token.scan text).length) :
    Command.parse text = result >>= fun last => lastCheck last.1 := by
  rw [← commands_rounds rounds (fun token member => (Token.scanned_of_scan token member).kind_ne_eof) enough]
  rfl

/-- The parser always makes progress. A part that succeeds takes tokens in front of the end only, and as many as it has to;
the loops over commas, AND and OR and the loop over commands end after no more rounds than there are tokens in front of the
end, for each round leaves fewer of them; what is inside parentheses is read with fewer of them, and is a condition like the
one outside. None of this is limited by a bound. -/
theorem ends_in_rounds :
    (∀ {α : Type} (least : Nat) (parser : Parser α), Part least parser → ∀ (state : ParseState) value after,
      parser.run state = .ok (value, after) → state.Moves least after) ∧
    (∀ {α : Type} (least : Nat) (item : Parser α), Part least item → ∀ (first : List α) (state : ParseState),
      ∃ made result, Rounds (At .comma) (nextItem item) first state made result ∧ made ≤ state.left ∧
        ((first ++ ·) <$> moreItems item state.rest.length).run state = result) ∧
    (∀ (connective : Keyword) combine (least : Nat) (operand : Parser Condition), Part least operand → ∀ first state,
      ∃ made result, Rounds (At (.keyword connective)) (nextOperand connective combine operand) first state made result ∧
        made ≤ state.left ∧ (moreOperands connective combine operand state.rest.length first).run state = result) ∧
    (∀ (one other : Parser Condition) (state : ParseState),
      (∀ inner : ParseState, inner.left < state.left → one.run inner = other.run inner) →
        (operand one).run state = (operand other).run state) ∧
    disjunction = chain .OR .or (chain .AND .and (operand disjunction)) ∧
    ∀ text, ∃ made result, Rounds (fun state => ¬ state.At .eof) nextCommand [] ⟨Token.scan text, none⟩ made result ∧
      made ≤ (Token.scan text).length ∧ Command.parse text = result >>= fun last => lastCheck last.1 := by
  refine ⟨fun least parser part => part.advances, ?_, ?_, fun one other state => operand_congr, disjunction_eq, ?_⟩
  · intro α least item part first state
    obtain ⟨made, result, rounds⟩ := exists_rounds (At .comma) (nextItem_advances part.advances) first state
    have few := rounds.made_le fun state here => not_at_eof here (by decide)
    exact ⟨made, result, rounds, few, moreItems_rounds rounds (Nat.le_trans few state.left_le)⟩
  · intro connective combine least operand part first state
    have advances := nextOperand_advances connective combine part.advances
    obtain ⟨made, result, rounds⟩ := exists_rounds (At (.keyword connective)) advances first state
    have few := rounds.made_le fun state here => not_at_eof here (by simp)
    exact ⟨made, result, rounds, few, moreOperands_rounds connective combine rounds (Nat.le_trans few state.left_le)⟩
  · intro text
    obtain ⟨made, result, rounds⟩ := exists_rounds (fun state => ¬ state.At .eof) nextCommand_advances []
      ⟨Token.scan text, none⟩
    have few := Nat.le_trans (rounds.made_le fun state here => here) (left_le _)
    exact ⟨made, result, rounds, few, parse_rounds rounds few⟩

/-- Tokens behind an end token are not looked at, and a text that breaks off inside parentheses and apostrophes has no
more rounds than its eleven tokens. -/
theorem broken_off_ends_in_rounds :
    let truth : Token := ⟨.keyword .TRUE, "TRUE"⟩
    let state : ParseState := ⟨[⟨.leftParen, "("⟩, truth, ⟨.rightParen, ")"⟩, Token.eof, ⟨.keyword .OR, "OR"⟩, truth], none⟩
    let after : ParseState := ⟨[Token.eof, ⟨.keyword .OR, "OR"⟩, truth], none⟩
    let text := "SELECT * FROM T WHERE ((A IN ('\x00"
    Part 1 disjunction ∧ disjunction.run state = .ok (.constant true, after) ∧ state.Moves 1 after ∧
      (Token.scan text).length = 11 ∧
      ∃ made result, Rounds (fun state => ¬ state.At .eof) nextCommand [] ⟨Token.scan text, none⟩ made result ∧ made ≤ 11 ∧
        Command.parse text = result >>= fun last => lastCheck last.1 := by
  intro truth state after text
  have read : disjunction.run state = .ok (.constant true, after) := rfl
  have size : (Token.scan text).length = 11 := by decide +kernel
  obtain ⟨parts, _, _, _, _, texts⟩ := ends_in_rounds
  exact ⟨.disjunction, read, parts 1 disjunction .disjunction state _ after read, size, size ▸ texts text⟩

end MiniSql.Parser

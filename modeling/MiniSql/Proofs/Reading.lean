import MiniSql.Proofs.Except
import MiniSql.Proofs.GrammarProgress

/-! A parser reads a language if it succeeds exactly on the inputs of the language, with the value and
the rest that the language gives them. One rule for each way to put parsers together. -/

namespace MiniSql.Parser
open Grammar

/-- What the parser returns in front of these tokens, whichever connective was read before. -/
def Gives (parser : Parser α) (input : List Token) (results : α → List Token → Prop) : Prop :=
  ∀ connective value rest,
    (∃ after, parser.run ⟨input, connective⟩ = .ok (value, ⟨rest, after⟩)) ↔ results value rest

def Reads (parser : Parser α) (language : Rule α) : Prop := ∀ input, Gives parser input (language input)

theorem run_bind_eq_ok {first : Parser α} {next : α → Parser β} {state : ParseState} {result : β × ParseState} :
    (first >>= next).run state = .ok result ↔
      ∃ value middle, first.run state = .ok (value, middle) ∧ (next value).run middle = .ok result := by
  rw [StateT.run_bind, Except.bind_eq_ok, Prod.exists]

namespace Gives

variable {input rest : List Token} {token : Token} {parser : Parser α} {results : α → List Token → Prop}

theorem congr {others : α → List Token → Prop} (gives : Gives parser input results)
    (same : ∀ value rest, results value rest ↔ others value rest) : Gives parser input others :=
  fun connective value rest => (gives connective value rest).trans (same value rest)

theorem bind {next : α → Parser β} {following : α → List Token → β → List Token → Prop}
    (gives : Gives parser input results)
    (behind : ∀ value middle, results value middle → Gives (next value) middle (following value middle)) :
    Gives (parser >>= next) input fun result rest =>
      ∃ value middle, results value middle ∧ following value middle result rest := by
  intro connective result final
  simp only [run_bind_eq_ok]
  constructor
  · intro ⟨after, value, middle, first, second⟩
    have here := (gives connective value middle.rest).mp ⟨middle.connective, first⟩
    exact ⟨value, middle.rest, here, (behind value _ here _ _ _).mp ⟨after, second⟩⟩
  · intro ⟨value, middle, here, there⟩
    obtain ⟨between, first⟩ := (gives connective value middle).mpr here
    obtain ⟨after, second⟩ := (behind value middle here between result final).mpr there
    exact ⟨after, value, _, first, second⟩

/-- Where the first parser succeeds it is left to the second; where it fails there must be no result. -/
theorem step {next : α → Parser β} {outcomes : β → List Token → Prop} (gives : Gives parser input results)
    (present : ∀ value middle, results value middle → Gives (next value) middle outcomes)
    (absent : (∀ value middle, ¬ results value middle) → ∀ value rest, ¬ outcomes value rest) :
    Gives (parser >>= next) input outcomes := by
  intro connective result final
  simp only [run_bind_eq_ok]
  constructor
  · intro ⟨after, value, middle, first, second⟩
    exact (present value _ ((gives connective _ _).mp ⟨_, first⟩) _ _ _).mp ⟨after, second⟩
  · intro wanted
    have ⟨value, middle, here⟩ : ∃ value middle, results value middle := by
      by_contra none
      exact absent (fun value middle here => none ⟨value, middle, here⟩) result final wanted
    obtain ⟨between, first⟩ := (gives connective value middle).mpr here
    obtain ⟨after, second⟩ := (present value middle here between result final).mpr wanted
    exact ⟨after, value, _, first, second⟩

theorem pure (value : α) : Gives (pure value : Parser α) input fun result rest => result = value ∧ rest = input := by
  intro connective result rest
  simp only [StateT.run_pure]
  constructor
  · intro ⟨after, same⟩
    cases same
    exact ⟨rfl, rfl⟩
  · intro ⟨rfl, rfl⟩
    exact ⟨connective, rfl⟩

theorem throw (error : Error) : Gives (throw error : Parser α) input fun _ _ => False := by
  intro connective value rest
  exact ⟨nofun, nofun⟩

theorem look {next : Token → Parser α} (gives : Gives (next (input.headD Token.eof)) input results) :
    Gives (current >>= next) input results := gives

theorem look_nil {next : Token → Parser α} {outcomes : α → List Token → Prop} (gives : Gives (next Token.eof) [] outcomes) :
    Gives (current >>= next) [] outcomes := gives

theorem look_cons {next : Token → Parser α} (gives : Gives (next token) (token :: rest) results) :
    Gives (current >>= next) (token :: rest) results := gives

theorem advance {next : Unit → Parser α} (gives : Gives (next ()) rest results) :
    Gives (advance >>= next) (token :: rest) results := gives

theorem get {next : ParseState → Parser α} (gives : ∀ connective, Gives (next ⟨input, connective⟩) input results) :
    Gives (get >>= next) input results := fun connective => gives connective connective

theorem connective {keyword : Option Keyword} {next : Unit → Parser α} (gives : Gives (next ()) input results) :
    Gives ((modify fun state => { state with connective := keyword }) >>= next) input results := fun _ => gives keyword

theorem none (gives : Gives parser input fun _ _ => False) (empty : ∀ value rest, ¬ results value rest) :
    Gives parser input results := gives.congr fun value rest => ⟨False.elim, empty value rest⟩

theorem one {value : α} (same : ∀ result rest, results result rest ↔ result = value ∧ rest = input) :
    Gives (Pure.pure value) input results := (pure value).congr fun result rest => (same result rest).symm

theorem check {result : Except Error β} {value : β} {next : β → Parser α} (done : result = .ok value)
    (gives : Gives (next value) input results) : Gives (liftM result >>= next) input results := by
  subst done
  exact gives

theorem refuse {result : Except Error β} {error : Error} {next : β → Parser α} (failed : result = .error error) :
    Gives (liftM result >>= next) input fun _ _ => False := by
  subst failed
  exact fun _ _ _ => ⟨nofun, nofun⟩

theorem unexpected (expected : List TokenKind) : Gives (unexpected expected : Parser α) input fun _ _ => False := by
  refine .look ?_
  split <;> exact .throw _

end Gives

theorem ahead_cons {kind : TokenKind} {token : Token} {rest : List Token} :
    Ahead kind (token :: rest) ↔ token.kind = kind := by
  simp only [Ahead, List.cons.injEq]
  constructor
  · intro holds
    obtain ⟨literal, rest, rfl, _⟩ := holds
    rfl
  · intro rfl
    exact ⟨token.literal, rest, rfl, rfl⟩

theorem not_ahead_nil {kind : TokenKind} : ¬ Ahead kind [] := by intro ⟨_, _, impossible⟩; cases impossible

theorem ahead_iff {kind : TokenKind} (real : kind ≠ .eof) {input : List Token} :
    (input.headD Token.eof).kind = kind ↔ Ahead kind input := by
  cases input with
  | nil => exact ⟨fun same => absurd same.symm real, fun ahead => absurd ahead not_ahead_nil⟩
  | cons token rest => exact ahead_cons.symm

namespace Reads

variable {parser : Parser α} {language : Rule α}

theorem congr {other : Rule α} (reads : Reads parser language)
    (same : ∀ input value rest, language input value rest ↔ other input value rest) : Reads parser other :=
  fun input => (reads input).congr (same input)

theorem bind {next : α → Parser β} {following : α → Rule β} (reads : Reads parser language)
    (behind : ∀ value, Reads (next value) (following value)) :
    Reads (parser >>= next) fun input result rest =>
      ∃ value middle, language input value middle ∧ following value middle result rest :=
  fun input => (reads input).bind fun value middle _ => behind value middle

theorem pure (value : α) : Reads (pure value : Parser α) fun input result rest => result = value ∧ rest = input :=
  fun _ => .pure value

private theorem map (f : α → β) (reads : Reads parser language) :
    Reads (f <$> parser) fun input result rest => ∃ value, language input value rest ∧ result = f value := by
  rw [map_eq_pure_bind]
  refine (reads.bind fun value => .pure (f value)).congr fun input result rest => ?_
  constructor
  · intro holds
    obtain ⟨value, _, here, rfl, rfl⟩ := holds
    exact ⟨value, here, rfl⟩
  · intro holds
    obtain ⟨value, here, rfl⟩ := holds
    exact ⟨value, rest, here, rfl, rfl⟩

end Reads

theorem reads_expect {kind : TokenKind} (real : kind ≠ .eof) :
    Reads (expect kind) fun input token rest => input = token :: rest ∧ token.kind = kind := by
  intro input
  refine .look ?_
  split
  next same =>
    obtain ⟨literal, rest, rfl⟩ := (ahead_iff real).mp same
    refine .congr (.advance (.pure _)) fun token after => ?_
    constructor
    · intro holds
      obtain ⟨rfl, rfl⟩ := holds
      exact ⟨rfl, rfl⟩
    · intro ⟨shape, _⟩
      cases shape
      exact ⟨rfl, rfl⟩
  next different =>
    refine .congr (.unexpected _) fun token after => ?_
    refine ⟨False.elim, ?_⟩
    intro holds
    obtain ⟨rfl, same⟩ := holds
    exact different same

theorem reads_skip {kind : TokenKind} (real : kind ≠ .eof) :
    Reads (discard (expect kind)) fun input _ rest => ∃ literal, input = ⟨kind, literal⟩ :: rest := by
  refine ((reads_expect real).map _).congr fun input value rest => ?_
  constructor
  · intro holds
    obtain ⟨⟨kind, literal⟩, ⟨rfl, rfl⟩, _⟩ := holds
    exact ⟨literal, rfl⟩
  · intro holds
    obtain ⟨literal, rfl⟩ := holds
    exact ⟨⟨kind, literal⟩, ⟨rfl, rfl⟩, rfl⟩

theorem reads_expectKeyword (keyword : Keyword) :
    Reads (expectKeyword keyword) fun input _ rest => ∃ literal, input = ⟨.keyword keyword, literal⟩ :: rest :=
  reads_skip (by simp)

theorem reads_ident : Reads ident fun input name rest => input = ⟨.ident, name⟩ :: rest := by
  refine ((reads_expect (by decide)).bind fun token => .pure token.literal).congr fun input name rest => ?_
  constructor
  · intro holds
    obtain ⟨⟨kind, literal⟩, _, ⟨rfl, rfl⟩, rfl, rfl⟩ := holds
    rfl
  · intro rfl
    exact ⟨⟨.ident, name⟩, rest, ⟨rfl, rfl⟩, rfl, rfl⟩

namespace Gives

variable {kind : TokenKind} {input : List Token} {results : α → List Token → Prop}

theorem accept (real : kind ≠ .eof) {next : Bool → Parser α}
    (present : ∀ literal rest, input = ⟨kind, literal⟩ :: rest → Gives (next true) rest results)
    (absent : ¬ Ahead kind input → Gives (next false) input results) : Gives (accept kind >>= next) input results := by
  rw [Parser.accept, bind_assoc]
  refine .look ?_
  split
  next same =>
    obtain ⟨literal, rest, rfl⟩ := (ahead_iff real).mp same
    rw [bind_assoc]
    exact .advance (present literal rest rfl)
  next different => exact absent fun ahead => different ((ahead_iff real).mpr ahead)

end Gives

variable {item : Parser α} {language : Rule α}

theorem moreItems_gives (reads : Reads item language) (consumes : Consumes language) (bound : Nat) {input : List Token}
    (enough : input.length ≤ bound) : Gives (moreItems item bound) input fun values rest =>
      Others language input values rest ∧ ¬ Ahead .comma rest := by
  induction bound generalizing input with
  | zero =>
    obtain rfl := List.length_eq_zero_iff.mp (Nat.le_zero.mp enough)
    refine .congr (.pure _) fun values rest => ?_
    constructor
    · intro holds
      obtain ⟨rfl, rfl⟩ := holds
      exact ⟨.none, not_ahead_nil⟩
    · intro holds
      obtain ⟨⟨⟩, _⟩ := holds
      exact ⟨rfl, rfl⟩
  | succ bound ih =>
    refine .accept (by decide) (fun literal middle shape => ?_) fun absent => ?_
    · subst shape
      refine .congr (.bind (reads middle) fun value after one => .bind (ih ?_) fun more _ _ => .pure (value :: more))
        fun values rest => ?_
      · have := consumes.length one
        simp only [List.length_cons] at enough
        omega
      constructor
      · intro holds
        obtain ⟨value, after, one, more, _, ⟨others, closed⟩, rfl, rfl⟩ := holds
        exact ⟨.next one others, closed⟩
      · intro ⟨others, closed⟩
        cases others with
        | none => exact absurd ⟨literal, middle, rfl⟩ closed
        | next one others => exact ⟨_, _, one, _, _, ⟨others, closed⟩, rfl, rfl⟩
    · refine .congr (.pure []) fun values rest => ?_
      constructor
      · intro holds
        obtain ⟨rfl, rfl⟩ := holds
        exact ⟨.none, absent⟩
      · intro ⟨others, _⟩
        cases others with
        | none => exact ⟨rfl, rfl⟩
        | next => exact absurd ⟨_, _, rfl⟩ absent

theorem reads_commaSeparated (reads : Reads item language) (consumes : Consumes language) :
    Reads (commaSeparated item) fun input values rest => Separated language input values rest ∧ ¬ Ahead .comma rest := by
  intro input
  refine .congr (.bind (reads input) fun value middle _ => .get fun _ =>
    .bind (moreItems_gives reads consumes _ (Nat.le_refl _)) fun others _ _ => .pure (value :: others)) fun values rest => ?_
  constructor
  · intro holds
    obtain ⟨value, middle, one, others, _, ⟨more, closed⟩, rfl, rfl⟩ := holds
    exact ⟨.intro one more, closed⟩
  · intro ⟨⟨one, more⟩, closed⟩
    exact ⟨_, _, one, _, _, ⟨more, closed⟩, rfl, rfl⟩

theorem reads_listed (reads : Reads item language) (consumes : Consumes language)
    (opens : ∀ input value rest, language input value rest → ¬ Ahead .rightParen input) :
    Reads (listed item) (Listed language) := by
  intro input
  refine .step (reads_skip (by decide) input) ?_ fun absent values rest listed => ?_
  · intro _ middle holds
    obtain ⟨opening, rfl⟩ := holds
    refine .look ?_
    split
    next same =>
      obtain ⟨closing, rest, rfl⟩ := (ahead_iff (by decide)).mp same
      rw [pure_bind]
      refine .step (reads_skip (by decide) _) ?_ fun absent => absurd ⟨closing, rfl⟩ (absent () rest)
      intro _ _ ⟨literal, shape⟩
      cases shape
      refine .one fun values after => ⟨fun listed => ?_, ?_⟩
      · cases listed with
        | none => exact ⟨rfl, rfl⟩
        | some items =>
          obtain ⟨one, _⟩ := items
          exact absurd ⟨_, _, rfl⟩ (opens _ _ _ one)
      · intro holds
        obtain ⟨rfl, rfl⟩ := holds
        exact .none
    next different =>
      refine .congr (.bind (reads_commaSeparated reads consumes middle) fun items _ _ =>
        .bind (reads_skip (by decide) _) fun _ _ _ => .pure items) fun values after => ?_
      constructor
      · intro holds
        obtain ⟨items, _, ⟨separated, _⟩, _, _, ⟨closing, rfl⟩, rfl, rfl⟩ := holds
        exact .some separated
      · intro listed
        cases listed with
        | none => exact absurd rfl different
        | some items => exact ⟨_, _, ⟨items, by simp [ahead_cons]⟩, (), _, ⟨_, rfl⟩, rfl, rfl⟩
  · cases listed <;> exact absent () _ ⟨_, rfl⟩

end MiniSql.Parser

import MiniSql.Proofs.ClauseReading

/-! A text is parsed exactly if its tokens are a program. The parser reads any command next and checks
its place against the commands before it; the grammar has whole chains. -/

namespace MiniSql

namespace Grammar

/-- Commands one after another, whatever their places. -/
inductive Phrases : Rule (List Command) where
  | nil : Phrases rest [] rest
  | cons (first : Phrase keyword input command middle) (others : Phrases middle commands rest) :
      Phrases input (command :: commands) rest

end Grammar

namespace Parser
open Grammar

/-- The sequences of commands that make up the input, put behind those already read. -/
def Completes (before : List Command) (input : List Token) : List Command → List Token → Prop := fun result rest =>
  rest = [] ∧ ∃ commands, result = before.reverse ++ commands ∧ Phrases input commands [] ∧ Command.Ordered before commands

theorem finish_gives (before : List Command) :
    Gives (do Command.checkDelete before none; return before.reverse) [] (Completes before []) := by
  cases ended : Command.checkDelete before none with
  | error error =>
    refine .none (.refuse rfl) ?_
    intro result rest ⟨_, commands, _, phrases, ordered⟩
    cases phrases with
    | nil =>
      cases ordered with
      | nil other => cases ended.symm.trans other
    | cons phrase => exact not_ahead_nil (phrase_ahead phrase)
  | ok =>
    refine .check rfl (.one fun result rest => ⟨?_, ?_⟩)
    · intro holds
      obtain ⟨rfl, commands, rfl, phrases, _⟩ := holds
      cases phrases with
      | nil => exact ⟨List.append_nil _, rfl⟩
      | cons phrase => exact absurd (phrase_ahead phrase) not_ahead_nil
    · intro holds
      obtain ⟨rfl, rfl⟩ := holds
      exact ⟨rfl, [], (List.append_nil _).symm, .nil, .nil ended⟩

private theorem commands_gives (bound : Nat) (before : List Command) {input : List Token} (enough : input.length ≤ bound) :
    Gives (commands bound before) input (Completes before input) := by
  induction bound generalizing before input with
  | zero =>
    obtain rfl := List.length_eq_zero_iff.mp (Nat.le_zero.mp enough)
    exact finish_gives before
  | succ bound ih =>
    refine .get fun _ => ?_
    obtain _ | ⟨token, input⟩ := input
    · exact finish_gives before
    have behind (next : Command) (middle : List Token) (here : Placeable before (token :: input) next middle) :
        Gives (do Command.checkDelete before (some next); commands bound (next :: before)) middle fun result rest =>
          Command.checkDelete before (some next) = .ok () ∧ Completes (next :: before) middle result rest := by
      obtain ⟨⟨keyword, phrase⟩, _⟩ := here
      have shorter := phrase_consumes.length phrase
      simp only [List.length_cons] at enough shorter
      cases follows : Command.checkDelete before (some next) with
      | error error => exact .none (.refuse rfl) (by simp)
      | ok => exact .check rfl ((ih (next :: before) (by omega)).congr fun result rest => by simp)
    refine .congr (.bind (reads_command before _) behind) fun result rest => ?_
    constructor
    · intro holds
      obtain ⟨next, middle, ⟨⟨keyword, phrase⟩, placed⟩, follows, rfl, others, rfl, phrases, ordered⟩ := holds
      refine ⟨rfl, next :: others, ?_, .cons phrase phrases, .cons placed follows ordered⟩
      rw [List.reverse_cons, List.append_assoc, List.singleton_append]
    · intro holds
      obtain ⟨rfl, commands, rfl, phrases, ordered⟩ := holds
      cases phrases with
      | cons phrase phrases =>
        cases ordered with
        | cons placed follows others =>
          refine ⟨_, _, ⟨⟨_, phrase⟩, placed⟩, follows, rfl, _, ?_, phrases, others⟩
          rw [List.reverse_cons, List.append_assoc, List.singleton_append]

theorem ofTokens_eq_ok {tokens : List Token} {commands : List Command} :
    Command.ofTokens tokens = .ok commands ↔ Phrases tokens commands [] ∧ Command.Ordered [] commands := by
  have gives := commands_gives tokens.length [] (Nat.le_refl _) none commands
  unfold Command.ofTokens
  constructor
  · intro done
    obtain ⟨⟨result, after⟩, ran, rfl⟩ := Except.map_eq_ok.mp done
    obtain ⟨_, _, rfl, phrases, ordered⟩ := (gives after.rest).mp ⟨after.connective, ran⟩
    exact ⟨phrases, ordered⟩
  · intro ⟨phrases, ordered⟩
    obtain ⟨after, ran⟩ := (gives []).mpr ⟨rfl, commands, rfl, phrases, ordered⟩
    exact Except.map_eq_ok.mpr ⟨_, ran, rfl⟩

end Parser

namespace Grammar
open Command

variable {input middle rest : List Token} {commands others : List Command}

theorem phrases_append :
    Phrases input (commands ++ others) rest ↔ ∃ middle, Phrases input commands middle ∧ Phrases middle others rest := by
  constructor
  · intro phrases
    induction commands generalizing input with
    | nil => exact ⟨input, .nil, phrases⟩
    | cons command commands ih =>
      cases phrases with
      | cons first phrases =>
        obtain ⟨middle, front, back⟩ := ih phrases
        exact ⟨middle, .cons first front, back⟩
  · intro ⟨middle, front, back⟩
    induction front with
    | nil => exact back
    | cons first _ ih => exact .cons first (ih back)

theorem phrases_cons {command : Command} : Phrases input (command :: commands) rest ↔
    ∃ middle, Phrase command.keyword input command middle ∧ Phrases middle commands rest := by
  constructor
  · intro holds
    rcases holds with _ | ⟨first, others⟩
    obtain rfl := Parser.phrase_keyword first
    exact ⟨_, first, others⟩
  · intro ⟨middle, first, others⟩
    exact .cons first others

theorem phrases_nil : Phrases input [] rest ↔ rest = input := by
  constructor
  · intro holds
    cases holds
    rfl
  · intro rfl
    exact .nil

private theorem phrases_alone {clauses : List Clause} (phrases : Phrases input (clauses.map clause) rest)
    (kinds : clauses.map Clause.kind ∈ [[]]) : clauses = [] ∧ rest = input := by
  obtain rfl := List.map_eq_nil_iff.mp (List.mem_singleton.mp kinds)
  exact ⟨rfl, phrases_nil.mp phrases⟩

theorem optional_iff {kind : ClauseKind} : Optional kind.keyword input commands rest ↔
    Phrases input commands rest ∧ ∃ clauses : List Clause, commands = clauses.map clause ∧
      clauses.map Clause.kind ∈ [[], [kind]] := by
  constructor
  · intro holds
    rcases holds with _ | phrase
    · exact ⟨.nil, [], rfl, by simp⟩
    · obtain ⟨part, rfl, rfl⟩ := Parser.phrase_clause phrase
      exact ⟨.cons phrase .nil, [part], rfl, by simp⟩
  · intro holds
    obtain ⟨phrases, clauses, rfl, kinds⟩ := holds
    match clauses with
    | [] =>
      obtain rfl := phrases_nil.mp phrases
      exact .absent
    | [part] =>
      obtain ⟨_, phrase, others⟩ := phrases_cons.mp phrases
      obtain rfl := phrases_nil.mp others
      obtain rfl : part.kind = kind := by simpa using kinds
      exact .present phrase
    | _ :: _ :: _ => simp at kinds

private theorem phrases_clauses {kind : ClauseKind} {clauses : List Clause} {tail : List ClauseKind}
    (phrases : Phrases input (clauses.map clause) rest) (kinds : clauses.map Clause.kind = kind :: tail) :
    ∃ part more middle, clauses = part :: more ∧ Phrase kind.keyword input (clause part) middle ∧
      Phrases middle (more.map clause) rest ∧ more.map Clause.kind = tail := by
  obtain ⟨part, more, rfl, rfl, rfl⟩ := List.map_eq_cons_iff.mp kinds
  obtain ⟨middle, phrase, others⟩ := phrases_cons.mp phrases
  exact ⟨part, more, middle, rfl, phrase, others, rfl⟩

private theorem window_iff : Window input commands rest ↔
    Phrases input commands rest ∧ ∃ clauses : List Clause, commands = clauses.map clause ∧
      clauses.map Clause.kind ∈ windows := by
  simp only [mem_windows]
  constructor
  · intro holds
    rcases holds with _ | ⟨first, second⟩ | ⟨first, second⟩
    · exact ⟨.nil, [], rfl, .inl rfl⟩
    · obtain ⟨part, rfl, same⟩ := @Parser.phrase_clause .limit _ _ _ first
      obtain ⟨phrases, clauses, rfl, kinds⟩ := (@optional_iff _ _ _ .offset).mp second
      exact ⟨.cons first phrases, part :: clauses, rfl, .inr (.inl ⟨_, kinds, by simp [same]⟩)⟩
    · obtain ⟨part, rfl, same⟩ := @Parser.phrase_clause .offset _ _ _ first
      obtain ⟨phrases, clauses, rfl, kinds⟩ := (@optional_iff _ _ _ .limit).mp second
      exact ⟨.cons first phrases, part :: clauses, rfl, .inr (.inr ⟨_, kinds, by simp [same]⟩)⟩
  · rintro ⟨phrases, clauses, rfl, empty | ⟨_, more, kinds⟩ | ⟨_, more, kinds⟩⟩
    · obtain rfl := List.map_eq_nil_iff.mp empty
      obtain rfl := phrases_nil.mp phrases
      exact .absent
    · obtain ⟨part, clauses, middle, rfl, phrase, others, rfl⟩ := phrases_clauses phrases kinds
      exact .limit phrase ((@optional_iff _ _ _ .offset).mpr ⟨others, clauses, rfl, more⟩)
    · obtain ⟨part, clauses, middle, rfl, phrase, others, rfl⟩ := phrases_clauses phrases kinds
      exact .offset phrase ((@optional_iff _ _ _ .limit).mpr ⟨others, clauses, rfl, more⟩)

theorem chain_iff : Chain input commands rest ↔
    Phrases input commands rest ∧ ∃ (head : Command) (clauses : List Clause), commands = head :: clauses.map clause ∧
      clauses.map Clause.kind ∈ head.chains := by
  constructor
  · intro chain
    cases chain with
    | createTable only | dropTable only | insert only =>
      refine ⟨.cons only .nil, _, [], rfl, ?_⟩
      cases only
      simp [chains]
    | @select _ command _ _ _ _ _ _ _ head filter order window =>
      obtain ⟨filters, first, rfl, firstKinds⟩ := (@optional_iff _ _ _ .filter).mp filter
      obtain ⟨orders, second, rfl, secondKinds⟩ := (@optional_iff _ _ _ .orderBy).mp order
      obtain ⟨windows, third, rfl, thirdKinds⟩ := window_iff.mp window
      refine ⟨.cons head (phrases_append.mpr ⟨_, phrases_append.mpr ⟨_, filters, orders⟩, windows⟩), command,
        first ++ second ++ third, by simp, ?_⟩
      cases head
      exact mem_selectChains.mpr ⟨_, firstKinds, _, secondKinds, _, thirdKinds, by simp⟩
    | update head filter =>
      obtain ⟨filters, clauses, rfl, kinds⟩ := (@optional_iff _ _ _ .filter).mp filter
      refine ⟨.cons head filters, _, clauses, rfl, ?_⟩
      cases head
      exact kinds
    | delete head filter =>
      obtain ⟨part, rfl, same⟩ := @Parser.phrase_clause .filter _ _ _ filter
      refine ⟨.cons head (.cons filter .nil), _, [part], rfl, ?_⟩
      cases head
      simp [chains, same]
  · intro holds
    obtain ⟨phrases, head, clauses, rfl, kinds⟩ := holds
    obtain ⟨behind, opening, others⟩ := phrases_cons.mp phrases
    cases head with
    | clause => cases kinds
    | createTable =>
      obtain ⟨rfl, rfl⟩ := phrases_alone others kinds
      exact .createTable opening
    | dropTable =>
      obtain ⟨rfl, rfl⟩ := phrases_alone others kinds
      exact .dropTable opening
    | insert =>
      obtain ⟨rfl, rfl⟩ := phrases_alone others kinds
      exact .insert opening
    | select =>
      obtain ⟨filter, filterKinds, order, orderKinds, window, windowKinds, same⟩ := mem_selectChains.mp kinds
      obtain ⟨front, third, rfl, both, rfl⟩ := List.map_eq_append_iff.mp same
      obtain ⟨first, second, rfl, rfl, rfl⟩ := List.map_eq_append_iff.mp both
      rw [List.map_append, List.map_append] at others ⊢
      obtain ⟨ordered, front, windows⟩ := phrases_append.mp others
      obtain ⟨filtered, filters, orders⟩ := phrases_append.mp front
      exact .select opening (optional_iff.mpr ⟨filters, _, rfl, filterKinds⟩)
        (optional_iff.mpr ⟨orders, _, rfl, orderKinds⟩) (window_iff.mpr ⟨windows, _, rfl, windowKinds⟩)
    | update => exact .update opening ((@optional_iff _ _ _ .filter).mpr ⟨others, clauses, rfl, kinds⟩)
    | delete =>
      obtain ⟨part, more, middle, rfl, phrase, others, empty⟩ := phrases_clauses others (List.mem_singleton.mp kinds)
      obtain rfl := List.map_eq_nil_iff.mp empty
      obtain rfl := phrases_nil.mp others
      exact .delete opening phrase

theorem program_iff : Program input commands ↔ Phrases input commands [] ∧ Chained commands := by
  constructor
  · intro program
    induction program with
    | nil => exact ⟨.nil, .nil⟩
    | cons first _ ih =>
      obtain ⟨phrases, head, clauses, rfl, chain⟩ := chain_iff.mp first
      exact ⟨phrases_append.mpr ⟨_, phrases, ih.1⟩, .cons chain ih.2⟩
  · intro ⟨phrases, chained⟩
    induction chained generalizing input with
    | nil =>
      obtain rfl := phrases_nil.mp phrases
      exact .nil
    | cons chain _ ih =>
      obtain ⟨middle, front, back⟩ := phrases_append.mp phrases
      exact .cons (chain_iff.mpr ⟨front, _, _, rfl, chain⟩) (ih back)

end Grammar

theorem Command.parse_eq_ok {text : String} {commands : List Command} :
    parse text = .ok commands ↔ Grammar.Phrases (Token.scan text) commands [] ∧ Chained commands := by
  rw [parse, Parser.ofTokens_eq_ok, ordered_iff_chained]

/-- A text is parsed as a sequence of commands exactly if its tokens derive that sequence. -/
theorem Command.parse_iff_program (text : String) (commands : List Command) :
    parse text = .ok commands ↔ Grammar.Program (Token.scan text) commands := by
  rw [parse_eq_ok, Grammar.program_iff]

end MiniSql

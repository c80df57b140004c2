import MiniSql.Proofs.Attachment
import MiniSql.Proofs.GrammarExtent
import MiniSql.Proofs.ScanSeams
import MiniSql.Proofs.StatementEffect

/-! One evaluation behind another. Commands that can be read as statements by themselves are read the same behind
others, and evaluating both is evaluating one and then, unless it failed, the other. -/

namespace MiniSql

namespace Statement

def Progress.behind (older : List Statement) (progress : Progress) : Progress :=
  { progress with done := progress.done ++ older }

variable {progress after : Progress} {older statements more : List Statement} {commands others : List Command}

private theorem step_behind {command : Command} (done : progress.step command = .ok after) :
    (progress.behind older).step command = .ok (after.behind older) := by
  obtain ⟨read, pending⟩ := progress
  cases pending with
  | some table =>
    cases command with
    | clause part =>
      cases part <;> cases done
      rfl
    | createTable | dropTable | insert | select | update | delete => cases done
  | none =>
    cases command with
    | clause part =>
      cases read with
      | nil => cases done
      | cons last earlier =>
        simp only [Progress.step, Progress.attach, Progress.behind, List.cons_append] at done ⊢
        split at done
        next takes =>
          rw [if_pos takes]
          cases attached : last.attach? part with
          | none =>
            rw [attached] at done
            cases done
          | some extended =>
            rw [attached] at done
            cases done
            rfl
        · cases done
    | createTable | dropTable | insert | select | update | delete =>
      cases done
      rfl

private theorem foldlM_behind (done : commands.foldlM Progress.step progress = .ok after) :
    commands.foldlM Progress.step (progress.behind older) = .ok (after.behind older) := by
  induction commands generalizing progress with
  | nil =>
    cases done
    rfl
  | cons command commands ih =>
    rw [List.foldlM_cons] at done ⊢
    obtain ⟨middle, first, rest⟩ := Except.bind_eq_ok.mp done
    rw [step_behind first]
    exact ih rest

theorem ofCommands_eq_ok :
    ofCommands commands = .ok statements ↔ commands.foldlM Progress.step .start = .ok ⟨statements.reverse, none⟩ := by
  unfold ofCommands
  constructor
  · intro done
    obtain ⟨⟨read, pending⟩, steps, finished⟩ := Except.bind_eq_ok.mp done
    cases pending with
    | none =>
      cases finished
      rw [steps, List.reverse_reverse]
    | some table => cases finished
  · intro steps
    rw [steps]
    exact congrArg Except.ok (List.reverse_reverse statements)

private theorem ofCommands_append (first : ofCommands commands = .ok statements) (second : ofCommands others = .ok more) :
    ofCommands (commands ++ others) = .ok (statements ++ more) := by
  rw [ofCommands_eq_ok] at first second ⊢
  rw [List.foldlM_append, first, List.reverse_append]
  exact foldlM_behind second

/-- Whatever is parsed can be read as statements. -/
theorem ofCommands_of_parse {text : String} (parsed : Command.parse text = .ok commands) :
    ∃ statements, ofCommands commands = .ok statements := by
  have wellFormed := Command.parse_wellFormed parsed
  obtain ⟨groups, statements, rfl, read, _⟩ := groups_of_chained wellFormed.chained wellFormed.formed
  exact ⟨statements, ofCommands_groups read⟩

end Statement

/-- Texts that can be parsed can be parsed behind one another, for nothing goes on across a last semicolon. -/
theorem Command.parse_append {first second : String} {commands others : List Command}
    (nonzero : '\x00' ∉ first.toList) (parsed : parse first = .ok commands) (behind : parse second = .ok others) :
    parse (first ++ second) = .ok (commands ++ others) := by
  obtain ⟨phrases, chained⟩ := parse_eq_ok.mp parsed
  obtain ⟨more, chain⟩ := parse_eq_ok.mp behind
  have front : Grammar.Phrases (Token.scan first ++ Token.scan second) commands (Token.scan second) :=
    Grammar.phrases_more phrases
  refine parse_eq_ok.mpr ⟨?_, chained.append chain⟩
  rw [Token.scan_append nonzero (Grammar.phrases_closed phrases)]
  exact Grammar.phrases_append.mpr ⟨_, front, more⟩

namespace Engine

/-- One evaluation and, unless it failed, another on the catalog it left. -/
def andThen (first second : Catalog → Evaluation × Catalog) (catalog : Catalog) : Evaluation × Catalog :=
  match first catalog with
  | (⟨outcomes, none⟩, middle) => (⟨outcomes ++ (second middle).1.outcomes, (second middle).1.error⟩, (second middle).2)
  | (⟨outcomes, some error⟩, middle) => (⟨outcomes, some error⟩, middle)

theorem andThen_succeeded {first second : Catalog → Evaluation × Catalog} {catalog : Catalog}
    (succeeded : (andThen first second catalog).1.error = none) :
    (first catalog).1.error = none ∧ (second (first catalog).2).1.error = none ∧
      (andThen first second catalog).1.outcomes = (first catalog).1.outcomes ++ (second (first catalog).2).1.outcomes ∧
      (andThen first second catalog).2 = (second (first catalog).2).2 := by
  rcases ran : first catalog with ⟨⟨outcomes, _ | error⟩, middle⟩ <;> simp only [andThen, ran] at succeeded ⊢
  · exact ⟨trivial, succeeded, trivial, trivial⟩
  · cases succeeded

private theorem runStatements_append (statements more : List Statement) :
    runStatements (statements ++ more) = andThen (runStatements statements) (runStatements more) := by
  funext catalog
  induction statements generalizing catalog with
  | nil => rfl
  | cons statement statements ih =>
    simp only [List.cons_append, runStatements, andThen]
    rcases statement.run catalog with ⟨error | outcome, middle⟩
    · rfl
    · simp only [ih middle, andThen]
      rcases runStatements statements middle with ⟨⟨outcomes, _ | error⟩, last⟩ <;> rfl

theorem evaluate_accepted {commands : List Command} {statements : List Statement}
    (accepted : Statement.ofCommands commands = .ok statements) : evaluate commands = runStatements statements := by
  funext catalog
  rw [evaluate, accepted]

theorem evaluate_append {commands others : List Command} {statements more : List Statement}
    (first : Statement.ofCommands commands = .ok statements) (second : Statement.ofCommands others = .ok more) :
    evaluate (commands ++ others) = andThen (evaluate commands) (evaluate others) := by
  rw [evaluate_accepted first, evaluate_accepted second, evaluate_accepted (Statement.ofCommands_append first second),
    runStatements_append]

theorem execute_parsed {text : String} {commands : List Command} (parsed : Command.parse text = .ok commands) :
    execute text = evaluate commands := by
  funext catalog
  rw [execute, parsed]

/-- Statements that succeed one after another, with what each returned. -/
inductive Succeed : List Statement → Catalog → List Outcome → Catalog → Prop where
  | nil : Succeed [] catalog [] catalog
  | cons {statement : Statement} {catalog middle after : Catalog} (ran : statement.run catalog = (.ok outcome, middle))
      (others : Succeed statements middle outcomes after) : Succeed (statement :: statements) catalog (outcome :: outcomes) after

/-- Where an evaluation ends behind the statements that succeeded: none is left, or the next one fails. -/
inductive Stops : List Statement → Catalog → Option Error → Catalog → Prop where
  | done : Stops [] catalog none catalog
  | failed {statement : Statement} {catalog after : Catalog} {error : Error}
      (ran : statement.run catalog = (.error error, after)) (unchanged : catalog.Valid → after = catalog) :
      Stops (statement :: unrun) catalog (some error) after

private theorem run_failed {statement : Statement} {catalog after : Catalog} {error : Error}
    (ran : statement.run catalog = (.error error, after)) (valid : catalog.Valid) : after = catalog := by
  have aligned : catalog.Aligned := fun entry member => (valid.tables entry member).aligned
  have settles := statement.run_settles aligned
  rwa [ran] at settles

private theorem runStatements_stops (statements : List Statement) (catalog : Catalog) :
    ∃ ran unrun middle, statements = ran ++ unrun ∧ Succeed ran catalog (runStatements statements catalog).1.outcomes middle ∧
      Stops unrun middle (runStatements statements catalog).1.error (runStatements statements catalog).2 := by
  induction statements generalizing catalog with
  | nil => exact ⟨[], [], catalog, rfl, .nil, .done⟩
  | cons statement statements ih =>
    cases first : statement.run catalog with
    | mk result middle =>
      cases result with
      | error error =>
        refine ⟨[], statement :: statements, catalog, rfl, ?_⟩
        simp only [runStatements, first]
        exact ⟨.nil, .failed first (run_failed first)⟩
      | ok outcome =>
        obtain ⟨ran, unrun, last, rfl, succeed, stops⟩ := ih middle
        refine ⟨statement :: ran, unrun, last, rfl, ?_⟩
        simp only [runStatements, first]
        exact ⟨.cons first succeed, stops⟩

/-- Commands that are accepted by themselves are accepted behind one another as the same statements, and evaluating
them together is evaluating the first and then, unless it failed, the second. The outcomes are those of the statements
that succeed up to the first that fails, and what these did remains. Texts that are parsed by themselves are
parsed and executed alike, if the first has no zero character. -/
theorem evaluates_in_turn :
    (∀ (commands others : List Command) (statements more : List Statement),
      Statement.ofCommands commands = .ok statements → Statement.ofCommands others = .ok more →
      Statement.ofCommands (commands ++ others) = .ok (statements ++ more) ∧
        evaluate (commands ++ others) = andThen (evaluate commands) (evaluate others)) ∧
    (∀ (commands : List Command) (statements : List Statement) (catalog : Catalog),
      Statement.ofCommands commands = .ok statements → ∃ ran unrun middle, statements = ran ++ unrun ∧
        Succeed ran catalog (evaluate commands catalog).1.outcomes middle ∧
        Stops unrun middle (evaluate commands catalog).1.error (evaluate commands catalog).2) ∧
    ∀ (first second : String) (commands others : List Command), '\x00' ∉ first.toList →
      Command.parse first = .ok commands → Command.parse second = .ok others →
      Command.parse (first ++ second) = .ok (commands ++ others) ∧
        execute (first ++ second) = andThen (execute first) (execute second) := by
  refine ⟨fun commands others statements more first second => ?_, fun commands statements catalog accepted => ?_,
    fun first second commands others nonzero parsed behind => ?_⟩
  · exact ⟨Statement.ofCommands_append first second, evaluate_append first second⟩
  · rw [evaluate_accepted accepted]
    exact runStatements_stops statements catalog
  · have both := Command.parse_append nonzero parsed behind
    obtain ⟨statements, own⟩ := Statement.ofCommands_of_parse parsed
    obtain ⟨more, other⟩ := Statement.ofCommands_of_parse behind
    rw [execute_parsed both, execute_parsed parsed, execute_parsed behind]
    exact ⟨both, evaluate_append own other⟩

/-- The second text fails on a column that the table of the first does not have. -/
theorem declaration_then_update :
    let first := "CREATE TABLE t(a INT); INSERT INTO t VALUES(1);"
    let second := "UPDATE t SET b TO 2 WHERE true;"
    let commands : List Command := [.createTable "T" [⟨"A", .int⟩], .insert "T" [⟨.literal, "1"⟩]]
    let others : List Command := [.update "T" [⟨"B", ⟨.literal, "2"⟩⟩], .clause (.filter (.constant true))]
    let statements : List Statement := [.createTable "T" [⟨"A", .int⟩], .insert "T" [⟨.literal, "1"⟩]]
    let more : List Statement := [.update "T" [⟨"B", ⟨.literal, "2"⟩⟩] (some (.constant true))]
    (Statement.ofCommands (commands ++ others) = .ok (statements ++ more) ∧
      evaluate (commands ++ others) = andThen (evaluate commands) (evaluate others)) ∧
    (∃ ran unrun middle, statements ++ more = ran ++ unrun ∧
      Succeed ran .empty (evaluate (commands ++ others) .empty).1.outcomes middle ∧
      Stops unrun middle (evaluate (commands ++ others) .empty).1.error (evaluate (commands ++ others) .empty).2) ∧
    Command.parse (first ++ second) = .ok (commands ++ others) ∧
      execute (first ++ second) = andThen (execute first) (execute second) := by
  intro first second commands others statements more
  have parsed : Command.parse first = .ok commands := by decide +kernel
  have behind : Command.parse second = .ok others := by decide +kernel
  have accepted : Statement.ofCommands commands = .ok statements := rfl
  have follow : Statement.ofCommands others = .ok more := rfl
  have both := evaluates_in_turn.1 commands others statements more accepted follow
  refine ⟨both, evaluates_in_turn.2.1 _ _ .empty both.1, ?_⟩
  exact evaluates_in_turn.2.2 first second commands others (by decide) parsed behind

end Engine

end MiniSql

import Mathlib.Data.List.Forall2
import MiniSql.Proofs.ScriptLines

/-! Which texts a script taken line by line has evaluated. Its lines fall into chunks, each ended by the first
semicolon at a line's end, and these are evaluated one after another, whether or not those before them failed. -/

namespace MiniSql.Script

open Session

/-- No statement ends at the end of one of these lines. -/
def Waits (lines : List String) : Prop := ∀ front back, lines = front ++ back → endsStatement (joined front) = false

/-- None of these lines ends the session: an exit line has no other than blank lines in front of it. -/
def Stays (lines : List String) : Prop :=
  ∀ front line back, lines = front ++ line :: back → isBlank (joined front) = true → isExit line = false

/-- The shortest run of lines that ends in a semicolon. -/
structure Chunk (lines : List String) : Prop where
  ends : endsStatement (joined lines) = true
  shortest : ∀ front back, lines = front ++ back → back ≠ [] → endsStatement (joined front) = false
  stays : Stays lines

/-- How a session ends, given the lines that wait and those not taken: which text is evaluated last, and how it fails. -/
inductive Closing (rest : List String) : List (List UInt8) → List String → Option Error → Prop where
  | blank (blank : isBlank (joined rest) = true) : Closing rest [] [] none
  | tail (filled : isBlank (joined rest) = false) : Closing rest [] [joined rest] none
  | exit {line : List UInt8} {text : String} (read : decode line = .ok text) (asks : isExit text = true)
      (blank : isBlank (joined rest) = true) : Closing rest (line :: unread) [] none
  | unreadable {line : List UInt8} {error : Error} (read : decode line = .error error) :
      Closing rest (line :: unread) [] (some error)

/-- Evaluates one text after another, whatever became of those before. -/
def executeAll : List String → Catalog → List Evaluation × Catalog
  | [], catalog => ([], catalog)
  | text :: texts, catalog =>
    let (evaluation, middle) := Engine.execute text catalog
    let (evaluations, after) := executeAll texts middle
    (evaluation :: evaluations, after)

private theorem executeAll_cons (text : String) (texts : List String) (catalog : Catalog) :
    executeAll (text :: texts) catalog =
      ((Engine.execute text catalog).1 :: (executeAll texts (Engine.execute text catalog).2).1,
        (executeAll texts (Engine.execute text catalog).2).2) := rfl

private theorem waits_nil : Waits [] := by
  intro front back shape
  obtain ⟨rfl, _⟩ := List.append_eq_nil_iff.mp shape.symm
  rfl

private theorem stays_nil : Stays [] := by
  intro front line back shape
  cases front <;> cases shape

variable {waiting front back : List String} {text : String}

private theorem snoc_eq_append (shape : waiting ++ [text] = front ++ back) :
    (front = waiting ++ [text] ∧ back = []) ∨ ∃ behind, waiting = front ++ behind ∧ back = behind ++ [text] := by
  rcases List.append_eq_append_iff.mp shape with ⟨behind, rfl, last⟩ | ⟨behind, rfl, last⟩
  · cases behind with
    | nil => exact .inr ⟨[], by simp, by simpa using last.symm⟩
    | cons line behind =>
      obtain ⟨rfl, empty⟩ := List.cons.inj last
      obtain ⟨rfl, rfl⟩ := List.append_eq_nil_iff.mp empty.symm
      exact .inl ⟨rfl, rfl⟩
  · exact .inr ⟨behind, rfl, last⟩

private theorem Waits.snoc (waits : Waits waiting) (goesOn : endsStatement (joined (waiting ++ [text])) = false) :
    Waits (waiting ++ [text]) := by
  intro front back shape
  rcases snoc_eq_append shape with ⟨rfl, _⟩ | ⟨behind, inside, _⟩
  · exact goesOn
  · exact waits front behind inside

private theorem Stays.snoc (stays : Stays waiting) (remains : (isBlank (joined waiting) && isExit text) = false) :
    Stays (waiting ++ [text]) := by
  intro front line back shape blank
  rcases snoc_eq_append shape with ⟨_, impossible⟩ | ⟨behind, inside, last⟩
  · cases impossible
  · cases behind with
    | nil =>
      cases last
      obtain rfl : waiting = front := by simpa using inside
      rw [blank, Bool.true_and] at remains
      exact remains
    | cons other behind =>
      obtain ⟨rfl, _⟩ := List.cons.inj last
      exact stays front line behind inside blank

private theorem Chunk.snoc (waits : Waits waiting) (stays : Stays (waiting ++ [text]))
    (ends : endsStatement (joined (waiting ++ [text])) = true) : Chunk (waiting ++ [text]) := by
  refine ⟨ends, fun front back shape nonempty => ?_, stays⟩
  rcases snoc_eq_append shape with ⟨_, empty⟩ | ⟨behind, inside, _⟩
  · exact absurd empty nonempty
  · exact waits front behind inside

/-- How a session takes lines when others wait already: it reads some of them, and together with those that wait they
fall into chunks and a rest. -/
structure Reading (waiting : List String) (lines : List (List UInt8)) (failure : Option Error) where
  taken : List (List UInt8)
  unread : List (List UInt8)
  texts : List String
  chunks : List (List String)
  rest : List String
  last : List String
  cut : lines = taken ++ unread
  read : List.Forall₂ (fun line text => decode line = .ok text) taken texts
  whole : waiting ++ texts = chunks.flatten ++ rest
  each : ∀ chunk ∈ chunks, Chunk chunk
  waits : Waits rest
  stays : Stays rest
  closing : Closing rest unread last failure

namespace Reading
variable {lines : List (List UInt8)} {line : List UInt8} {failure : Option Error}

/-- The texts that are evaluated, in order. -/
def evaluated (reading : Reading waiting lines failure) : List String := reading.chunks.map joined ++ reading.last

def close (waits : Waits waiting) (stays : Stays waiting) {last : List String} (closing : Closing waiting lines last failure) :
    Reading waiting lines failure :=
  ⟨[], lines, [], [], waiting, last, rfl, .nil, List.append_nil _, nofun, waits, stays, closing⟩

def take (read : decode line = .ok text) (reading : Reading (waiting ++ [text]) lines failure) :
    Reading waiting (line :: lines) failure :=
  { reading with
    taken := line :: reading.taken
    texts := text :: reading.texts
    cut := congrArg (line :: ·) reading.cut
    read := .cons read reading.read
    whole := by rw [← reading.whole, List.append_assoc, List.singleton_append] }

def complete (read : decode line = .ok text) (chunk : Chunk (waiting ++ [text])) (reading : Reading [] lines failure) :
    Reading waiting (line :: lines) failure :=
  { reading with
    taken := line :: reading.taken
    texts := text :: reading.texts
    chunks := (waiting ++ [text]) :: reading.chunks
    cut := congrArg (line :: ·) reading.cut
    read := .cons read reading.read
    whole := by
      have behind : reading.texts = reading.chunks.flatten ++ reading.rest := reading.whole
      rw [behind, List.flatten_cons, List.append_assoc, List.append_assoc, List.singleton_append]
    each := List.forall_mem_cons.mpr ⟨chunk, reading.each⟩ }

end Reading

private theorem addLine_waits (goesOn : endsStatement (joined (waiting ++ [text])) = false) (catalog : Catalog) (written : String) :
    addLine ⟨catalog, joined waiting, written⟩ text = ⟨catalog, joined (waiting ++ [text]), written⟩ := by
  rw [joined_snoc] at goesOn ⊢
  simp only [addLine, goesOn, Bool.false_eq_true, if_false]

private theorem addLine_ends (ends : endsStatement (joined (waiting ++ [text])) = true) (catalog : Catalog) (written : String) :
    addLine ⟨catalog, joined waiting, written⟩ text =
      ⟨(Engine.execute (joined (waiting ++ [text])) catalog).2, joined [],
        written ++ report (Engine.execute (joined (waiting ++ [text])) catalog).1⟩ := by
  rw [joined_snoc] at ends ⊢
  simp only [addLine, ends, if_true]
  rfl

private theorem Reading.evaluated_complete {lines : List (List UInt8)} {line : List UInt8} {failure : Option Error}
    (reading : Reading [] lines failure) (read : decode line = .ok text) (chunk : Chunk (waiting ++ [text])) :
    (reading.complete read chunk).evaluated = joined (waiting ++ [text]) :: reading.evaluated := rfl

/-- A session between two lines evaluates what it reads from there on, and writes it behind what it has written. -/
theorem run_reads (lines : List (List UInt8)) (waits : Waits waiting) (stays : Stays waiting) (catalog : Catalog)
    (written : String) :
    ∃ reading : Reading waiting lines (run ⟨catalog, joined waiting, written⟩ lines).1,
      (run ⟨catalog, joined waiting, written⟩ lines).2.catalog = (executeAll reading.evaluated catalog).2 ∧
      (run ⟨catalog, joined waiting, written⟩ lines).2.written =
        written ++ String.join ((executeAll reading.evaluated catalog).1.map report) := by
  induction lines generalizing waiting catalog written with
  | nil =>
    simp only [run, finish]
    cases blank : isBlank (joined waiting) with
    | true => exact ⟨.close waits stays (.blank blank), rfl, (String.append_empty).symm⟩
    | false => exact ⟨.close waits stays (.tail blank), rfl, rfl⟩
  | cons line lines ih =>
    cases read : decode line with
    | error error =>
      rw [run_unreadable _ read]
      exact ⟨.close waits stays (.unreadable read), rfl, (String.append_empty).symm⟩
    | ok text =>
      cases leaves : isBlank (joined waiting) && isExit text with
      | true =>
        obtain ⟨blank, asks⟩ := (Bool.and_eq_true _ _).mp leaves
        rw [run_exit ⟨catalog, joined waiting, written⟩ read leaves]
        exact ⟨.close waits stays (.exit read asks blank), rfl, (String.append_empty).symm⟩
      | false =>
        have kept := stays.snoc leaves
        rw [run_taken ⟨catalog, joined waiting, written⟩ read leaves]
        cases ends : endsStatement (joined (waiting ++ [text])) with
        | false =>
          rw [addLine_waits ends]
          obtain ⟨reading, same, output⟩ := ih (waits.snoc ends) kept catalog written
          exact ⟨reading.take read, same, output⟩
        | true =>
          have chunk : Chunk (waiting ++ [text]) := .snoc waits kept ends
          rw [addLine_ends ends]
          generalize executed : Engine.execute (joined (waiting ++ [text])) catalog = result
          obtain ⟨reading, same, output⟩ := ih waits_nil stays_nil result.2 (written ++ report result.1)
          have both : executeAll (reading.complete read chunk).evaluated catalog =
              (result.1 :: (executeAll reading.evaluated result.2).1, (executeAll reading.evaluated result.2).2) := by
            rw [reading.evaluated_complete, executeAll_cons, executed]
          refine ⟨reading.complete read chunk, ?_, ?_⟩
          · rw [both, same]
          · rw [both, output, List.map_cons, String.join_cons, String.append_assoc]

private theorem report_eq (evaluation : Evaluation) : report evaluation =
    joined (evaluation.outcomes.map Outcome.render ++ (evaluation.error.map fun error => "error: " ++ error.message).toList) := by
  rw [joined_append]
  have output : evaluation.output = joined (evaluation.outcomes.map Outcome.render) := by
    rw [Evaluation.output, joined, List.map_map]
    rfl
  unfold report
  rw [output]
  cases evaluation.error with
  | none => rfl
  | some error =>
    have last : joined ["error: " ++ error.message] = "error: " ++ error.message ++ "\n" := by
      rw [joined_cons]
      exact String.append_empty
    exact congrArg _ last.symm

/-- A script taken line by line has its chunks evaluated in order and a rest that is not blank behind them, each
line once. For each of them the outcomes are written, a line each, and behind them a line with the error if it failed.
The script itself fails where a line it comes to is no text. -/
theorem runLines_reads (bytes : List UInt8) (catalog : Catalog) :
    ∃ (cut : List (List UInt8)) (reading : Reading [] cut (runLines bytes catalog).1),
      ByteLines bytes cut ∧
      (runLines bytes catalog).2.catalog = (executeAll reading.evaluated catalog).2 ∧
      (runLines bytes catalog).2.written = String.join ((executeAll reading.evaluated catalog).1.map fun evaluation =>
        joined (evaluation.outcomes.map Outcome.render ++
          (evaluation.error.map fun error => "error: " ++ error.message).toList)) := by
  obtain ⟨reading, same, output⟩ := run_reads (lines bytes) waits_nil stays_nil catalog ""
  refine ⟨lines bytes, reading, lines_iff.mpr rfl, same, ?_⟩
  rw [String.empty_append, funext report_eq] at output
  exact output

/-- The first script has a chunk that fails behind a success, a chunk of two lines and an exit line behind a blank one;
the second ends with lines that wait, one of which would be an exit line elsewhere; in the third such lines stand in front
of one that is no text. -/
theorem three_scripts_read :
    let exits := encode (joined ["create table t(a int); drop table x;", "insert into t", "values(1);", "\t", " .exit",
      "drop table t;"]).toList
    let waits := encode "create table t(a int);\r\n.exit;\n\nselect a\n.quit\nfrom t".toList
    let breaks := encode "create table t(a int);\ndrop table t\n".toList ++ 0xFF :: encode "\n;\n".toList
    let ending (ran : Option Error × Session) := (ran.1, ran.2.written, ran.2.catalog.keys)
    let success := "Table 'T' has been created\n"
    let illegal := "error: syntax error, illegal character: \x7b.\x7d\n"
    let missing := "error: table with the name of X doesn't exist\n"
    ending (runLines exits .empty) = (none, success ++ missing ++ "Data Inserted\n", ["T"]) ∧
    ending (runLines waits .empty) = (none, success ++ illegal ++ illegal, ["T"]) ∧
    ending (runLines breaks .empty) = (some invalidText, success, ["T"]) ∧
    ∃ (cut : List (List UInt8)) (reading : Reading [] cut (runLines exits .empty).1),
      ByteLines exits cut ∧ (executeAll reading.evaluated .empty).2.keys = ["T"] ∧
      String.join ((executeAll reading.evaluated .empty).1.map fun evaluation =>
        joined (evaluation.outcomes.map Outcome.render ++
          (evaluation.error.map fun error => "error: " ++ error.message).toList)) =
        success ++ missing ++ "Data Inserted\n" := by
  intro exits waits breaks ending success illegal missing
  have exited : ending (runLines exits .empty) = (none, success ++ missing ++ "Data Inserted\n", ["T"]) := by decide +kernel
  have waited : ending (runLines waits .empty) = (none, success ++ illegal ++ illegal, ["T"]) := by decide +kernel
  have broken : ending (runLines breaks .empty) = (some invalidText, success, ["T"]) := by decide +kernel
  obtain ⟨cut, reading, lines, same, output⟩ := runLines_reads exits .empty
  refine ⟨exited, waited, broken, cut, reading, lines, ?_, ?_⟩
  · rw [← same]
    exact (Prod.mk.inj (Prod.mk.inj exited).2).2
  · rw [← output]
    exact (Prod.mk.inj (Prod.mk.inj exited).2).1

end MiniSql.Script

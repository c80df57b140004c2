import MiniSql.Proofs.ListedValues
import MiniSql.Proofs.TypedRelation

/-! WHERE and three-valued logic. A condition that compares with NULL is unknown, and AND and OR carry that on. Evaluation
knows two values only: it answers false for what is unknown, as soon as it meets it. No connective turns an answer round,
so a condition holds exactly if it is true in the three-valued sense, in whatever order its parts are looked at. -/

namespace MiniSql

inductive Truth where
  | no | unknown | yes
  deriving DecidableEq

namespace Truth

def ofBool : Bool → Truth
  | true => yes
  | false => no

/-- One side that fails settles a conjunction. -/
def and : Truth → Truth → Truth
  | no, _ => no
  | _, no => no
  | yes, yes => yes
  | _, _ => unknown

/-- One side that holds settles a disjunction. -/
def or : Truth → Truth → Truth
  | yes, _ => yes
  | _, yes => yes
  | no, no => no
  | _, _ => unknown

@[simp] theorem ofBool_eq_yes {truth : Bool} : ofBool truth = yes ↔ truth = true := by
  cases truth <;> simp [ofBool]

@[simp] theorem and_eq_yes {left right : Truth} : left.and right = yes ↔ left = yes ∧ right = yes := by
  cases left <;> cases right <;> simp [and]

@[simp] theorem or_eq_yes {left right : Truth} : left.or right = yes ↔ left = yes ∨ right = yes := by
  cases left <;> cases right <;> simp [or]

end Truth

/-- The value a token stands for, NULL if it stands for none. -/
def Token.value (token : Token) : Value := (Value.ofToken token).toOption.getD .null

private theorem Token.value_of_ofToken {token : Token} {value : Value} (converted : Value.ofToken token = .ok value) :
    token.value = value := by
  rw [Token.value, converted]
  rfl

def Comparison.truth (comparison : Comparison) (cell value : Value) : Truth :=
  if cell = .null ∨ value = .null then .unknown else .ofBool (comparison.holds (cell == value))

/-- Beside a NULL it is unknown whether a value that is not found is listed. -/
def Membership.truth (membership : Membership) (cell : Value) (values : List Value) : Truth :=
  if cell = .null then .unknown
  else if cell ∈ values then .ofBool (membership.holds true)
  else if .null ∈ values then .unknown
  else .ofBool (membership.holds false)

namespace Condition

/-- The three-valued truth of a condition on a row. -/
def truth (columns : List String) (row : Row) : Condition → Truth
  | and left right => (left.truth columns row).and (right.truth columns row)
  | or left right => (left.truth columns row).or (right.truth columns row)
  | constant known => .ofBool known
  | compare column comparison token => comparison.truth (row.value columns column) token.value
  | member column membership tokens => membership.truth (row.value columns column) (tokens.map Token.value)

/-- What AND and OR connect in a condition. -/
def atoms : Condition → List Condition
  | and left right => left.atoms ++ right.atoms
  | or left right => left.atoms ++ right.atoms
  | constant known => [constant known]
  | compare column comparison token => [compare column comparison token]
  | member column membership tokens => [member column membership tokens]

def column? : Condition → Option String
  | compare column _ _ => some column
  | member column _ _ => some column
  | _ => none

/-- A condition names the columns of its atoms and no others. -/
theorem columns_eq_atoms (condition : Condition) : condition.columns = condition.atoms.filterMap column? := by
  induction condition with
  | and left right ihLeft ihRight => rw [columns, ihLeft, ihRight, atoms, List.filterMap_append]
  | or left right ihLeft ihRight => rw [columns, ihLeft, ihRight, atoms, List.filterMap_append]
  | constant => rfl
  | compare => rfl
  | member => rfl

/-- The condition is no list with a NULL in it. -/
def ListsNoNull : Condition → Prop
  | member _ _ tokens => ∀ token ∈ tokens, token.kind ≠ .keyword .NULL
  | _ => True

/-- Each atom has an answer on the row. -/
def Evaluates (table : String) (columns : List String) (row : Row) (condition : Condition) : Prop :=
  ∀ atom ∈ condition.atoms, Except.Returns (atom.holds table columns row) fun _ => True

/-- Answers that are found in any order. A side of a connective may be left out where the other settles it. -/
inductive Answers (table : String) (columns : List String) (row : Row) : Condition → Bool → Prop
  | constant {known : Bool} : Answers table columns row (.constant known) known
  | compare {column : String} {comparison : Comparison} {token : Token} {answer : Bool}
    (done : holds table columns row (.compare column comparison token) = .ok answer) :
    Answers table columns row (.compare column comparison token) answer
  | member {column : String} {membership : Membership} {tokens : List Token} {answer : Bool}
    (done : holds table columns row (.member column membership tokens) = .ok answer) :
    Answers table columns row (.member column membership tokens) answer
  | and_left {left right : Condition} (fails : Answers table columns row left false) :
    Answers table columns row (.and left right) false
  | and_right {left right : Condition} (fails : Answers table columns row right false) :
    Answers table columns row (.and left right) false
  | and_both {left right : Condition} (first : Answers table columns row left true)
    (second : Answers table columns row right true) : Answers table columns row (.and left right) true
  | or_left {left right : Condition} (succeeds : Answers table columns row left true) :
    Answers table columns row (.or left right) true
  | or_right {left right : Condition} (succeeds : Answers table columns row right true) :
    Answers table columns row (.or left right) true
  | or_neither {left right : Condition} (first : Answers table columns row left false)
    (second : Answers table columns row right false) : Answers table columns row (.or left right) false

/-- The same condition up to the order and the grouping of the sides of AND and OR, anywhere in it. -/
inductive Rearranged : Condition → Condition → Prop
  | refl (condition : Condition) : Rearranged condition condition
  | symm {first second : Condition} (same : Rearranged first second) : Rearranged second first
  | trans {first second third : Condition} (one : Rearranged first second) (other : Rearranged second third) :
    Rearranged first third
  | and_comm (left right : Condition) : Rearranged (.and left right) (.and right left)
  | or_comm (left right : Condition) : Rearranged (.or left right) (.or right left)
  | and_assoc (first second third : Condition) :
    Rearranged (.and (.and first second) third) (.and first (.and second third))
  | or_assoc (first second third : Condition) : Rearranged (.or (.or first second) third) (.or first (.or second third))
  | and {left right left' right' : Condition} (one : Rearranged left left') (other : Rearranged right right') :
    Rearranged (.and left right) (.and left' right')
  | or {left right left' right' : Condition} (one : Rearranged left left') (other : Rearranged right right') :
    Rearranged (.or left right) (.or left' right')

variable {table : String} {columns : List String} {row : Row} {left right : Condition}

private theorem evaluates_and : (and left right).Evaluates table columns row ↔
    left.Evaluates table columns row ∧ right.Evaluates table columns row :=
  List.forall_mem_append

private theorem evaluates_or : (or left right).Evaluates table columns row ↔
    left.Evaluates table columns row ∧ right.Evaluates table columns row :=
  List.forall_mem_append

private theorem holds_and {first second : Bool} (one : left.holds table columns row = .ok first)
    (other : right.holds table columns row = .ok second) :
    (and left right).holds table columns row = .ok (first && second) := by
  rw [holds, one]
  cases first with
  | false => rfl
  | true => exact other

private theorem holds_or {first second : Bool} (one : left.holds table columns row = .ok first)
    (other : right.holds table columns row = .ok second) :
    (or left right).holds table columns row = .ok (first || second) := by
  rw [holds, one]
  cases first with
  | false => exact other
  | true => rfl

private theorem Evaluates.returns {condition : Condition} (evaluated : condition.Evaluates table columns row) :
    ∃ answer, condition.holds table columns row = .ok answer := by
  induction condition with
  | constant known => exact ⟨known, rfl⟩
  | compare column comparison token =>
    obtain ⟨answer, done, _⟩ := evaluated _ List.mem_cons_self
    exact ⟨answer, done⟩
  | member column membership tokens =>
    obtain ⟨answer, done, _⟩ := evaluated _ List.mem_cons_self
    exact ⟨answer, done⟩
  | and left right ihLeft ihRight =>
    obtain ⟨one, other⟩ := evaluates_and.mp evaluated
    obtain ⟨first, one⟩ := ihLeft one
    obtain ⟨second, other⟩ := ihRight other
    exact ⟨_, holds_and one other⟩
  | or left right ihLeft ihRight =>
    obtain ⟨one, other⟩ := evaluates_or.mp evaluated
    obtain ⟨first, one⟩ := ihLeft one
    obtain ⟨second, other⟩ := ihRight other
    exact ⟨_, holds_or one other⟩

private theorem and_answers (evaluated : (and left right).Evaluates table columns row) :
    ∃ first second, left.holds table columns row = .ok first ∧ right.holds table columns row = .ok second := by
  obtain ⟨one, other⟩ := evaluates_and.mp evaluated
  obtain ⟨first, one⟩ := one.returns
  obtain ⟨second, other⟩ := other.returns
  exact ⟨first, second, one, other⟩

private theorem or_answers (evaluated : (or left right).Evaluates table columns row) :
    ∃ first second, left.holds table columns row = .ok first ∧ right.holds table columns row = .ok second :=
  and_answers evaluated

private theorem value_of_cellOf {column : String} {cell : Value} (read : cellOf table columns row column = .ok cell) :
    row.value columns column = cell := by
  obtain ⟨index, found, read⟩ := Except.bind_eq_ok.mp read
  exact Relation.cell_of_position found read

private theorem compare_truth {column : String} {comparison : Comparison} {token : Token} {answer : Bool}
    (done : holds table columns row (.compare column comparison token) = .ok answer) :
    answer = decide ((compare column comparison token).truth columns row = .yes) := by
  obtain ⟨cell, value, same, read, converted, compared, rfl⟩ := compare_eq_ok.mp done
  rw [truth, Comparison.truth, value_of_cellOf read, Token.value_of_ofToken converted]
  cases same with
  | none =>
    rw [if_pos (Value.equal?_eq_none.mp compared)]
    rfl
  | some same =>
    cases same with
    | true =>
      obtain ⟨present, rfl⟩ := Value.equal?_eq_true.mp compared
      simp [present]
    | false =>
      obtain ⟨present, presentValue, _, apart⟩ := Value.equal?_eq_false.mp compared
      simp [present, presentValue, beq_eq_false_iff_ne.mpr apart]

private theorem member_truth {column : String} {membership : Membership} {tokens : List Token} {answer : Bool}
    (present : ∀ token ∈ tokens, token.kind ≠ .keyword .NULL)
    (done : holds table columns row (.member column membership tokens) = .ok answer) :
    answer = decide ((member column membership tokens).truth columns row = .yes) := by
  obtain ⟨cell, read, ⟨rfl, rfl⟩ | ⟨filled, found, searched, rfl⟩⟩ := member_eq_ok.mp done
  · rw [truth, Membership.truth, value_of_cellOf read, if_pos rfl]
    rfl
  obtain ⟨compared, inside⟩ := Value.among_eq_ok searched
  have listed : cell ∈ tokens.map Token.value ↔ found = true := by
    rw [inside, List.mem_map]
    constructor
    · rintro ⟨token, member, rfl⟩
      obtain ⟨value, _, converted, _⟩ := compared token member
      exact ⟨filled, token, member, by rw [Token.value_of_ofToken converted, converted]⟩
    · rintro ⟨_, token, member, converted⟩
      exact ⟨token, member, Token.value_of_ofToken converted⟩
  have unlisted : .null ∉ tokens.map Token.value := by
    intro null
    obtain ⟨token, member, same⟩ := List.mem_map.mp null
    obtain ⟨value, _, converted, _⟩ := compared token member
    obtain rfl := (Token.value_of_ofToken converted).symm.trans same
    exact present token member (Value.ofToken_eq_null.mp converted)
  rw [truth, Membership.truth, value_of_cellOf read, if_neg filled, if_neg unlisted]
  cases found with
  | false => simp [listed]
  | true => simp [listed]

/-- A condition holds exactly if it is true in three-valued logic. -/
theorem holds_eq_truth {condition : Condition} (present : ∀ atom ∈ condition.atoms, atom.ListsNoNull)
    (evaluated : condition.Evaluates table columns row) :
    condition.holds table columns row = .ok (decide (condition.truth columns row = .yes)) := by
  induction condition with
  | constant known => simp [holds, truth, pure, Except.pure]
  | compare column comparison token =>
    obtain ⟨answer, done⟩ := evaluated.returns
    rw [done, compare_truth done]
  | member column membership tokens =>
    obtain ⟨answer, done⟩ := evaluated.returns
    rw [done, member_truth (present _ List.mem_cons_self) done]
  | and left right ihLeft ihRight =>
    obtain ⟨one, other⟩ := evaluates_and.mp evaluated
    obtain ⟨presentLeft, presentRight⟩ := List.forall_mem_append.mp present
    rw [holds_and (ihLeft presentLeft one) (ihRight presentRight other)]
    simp [truth]
  | or left right ihLeft ihRight =>
    obtain ⟨one, other⟩ := evaluates_or.mp evaluated
    obtain ⟨presentLeft, presentRight⟩ := List.forall_mem_append.mp present
    rw [holds_or (ihLeft presentLeft one) (ihRight presentRight other)]
    simp [truth]

private theorem holds_of_answers {condition : Condition} {answer : Bool} (evaluated : condition.Evaluates table columns row)
    (found : Answers table columns row condition answer) : condition.holds table columns row = .ok answer := by
  induction found with
  | constant => rfl
  | compare done => exact done
  | member done => exact done
  | and_left fails ih =>
    obtain ⟨one, other⟩ := evaluates_and.mp evaluated
    obtain ⟨second, other⟩ := other.returns
    exact holds_and (ih one) other
  | and_right fails ih =>
    obtain ⟨one, other⟩ := evaluates_and.mp evaluated
    obtain ⟨first, one⟩ := one.returns
    rw [holds_and one (ih other), Bool.and_false]
  | and_both first second ihFirst ihSecond =>
    obtain ⟨one, other⟩ := evaluates_and.mp evaluated
    exact holds_and (ihFirst one) (ihSecond other)
  | or_left succeeds ih =>
    obtain ⟨one, other⟩ := evaluates_or.mp evaluated
    obtain ⟨second, other⟩ := other.returns
    exact holds_or (ih one) other
  | or_right succeeds ih =>
    obtain ⟨one, other⟩ := evaluates_or.mp evaluated
    obtain ⟨first, one⟩ := one.returns
    rw [holds_or one (ih other), Bool.or_true]
  | or_neither first second ihFirst ihSecond =>
    obtain ⟨one, other⟩ := evaluates_or.mp evaluated
    exact holds_or (ihFirst one) (ihSecond other)

private theorem answers_of_holds {condition : Condition} {answer : Bool} (done : condition.holds table columns row = .ok answer) :
    Answers table columns row condition answer := by
  induction condition generalizing answer with
  | constant known => cases done; exact .constant
  | compare column comparison token => exact .compare done
  | member column membership tokens => exact .member done
  | and left right ihLeft ihRight =>
    rcases (and_connects left right answer).mp done with ⟨one, rfl⟩ | ⟨one, other⟩
    · exact .and_left (ihLeft one)
    · cases answer with
      | false => exact .and_right (ihRight other)
      | true => exact .and_both (ihLeft one) (ihRight other)
  | or left right ihLeft ihRight =>
    rcases (or_connects left right answer).mp done with ⟨one, rfl⟩ | ⟨one, other⟩
    · exact .or_left (ihLeft one)
    · cases answer with
      | false => exact .or_neither (ihLeft one) (ihRight other)
      | true => exact .or_right (ihRight other)

private theorem Rearranged.atoms_perm {first second : Condition} (same : Rearranged first second) :
    first.atoms.Perm second.atoms := by
  induction same with
  | refl => exact .refl _
  | symm _ ih => exact ih.symm
  | trans _ _ one other => exact one.trans other
  | and_comm | or_comm => exact List.perm_append_comm
  | and_assoc | or_assoc => exact .of_eq (List.append_assoc _ _ _)
  | and _ _ one other | or _ _ one other => exact one.append other

private theorem Rearranged.evaluates {first second : Condition} (same : Rearranged first second) :
    first.Evaluates table columns row ↔ second.Evaluates table columns row :=
  forall_congr' fun _ => imp_congr_left same.atoms_perm.mem_iff

private theorem Rearranged.holds_eq {first second : Condition} (same : Rearranged first second)
    (evaluated : first.Evaluates table columns row) :
    second.holds table columns row = first.holds table columns row := by
  induction same with
  | refl => rfl
  | symm one ih => exact (ih (one.evaluates.mpr evaluated)).symm
  | trans one other ihOne ihOther => exact (ihOther (one.evaluates.mp evaluated)).trans (ihOne evaluated)
  | and_comm left right =>
    obtain ⟨first, second, one, other⟩ := and_answers evaluated
    rw [holds_and one other, holds_and other one, Bool.and_comm]
  | or_comm left right =>
    obtain ⟨first, second, one, other⟩ := or_answers evaluated
    rw [holds_or one other, holds_or other one, Bool.or_comm]
  | and_assoc left middle right =>
    obtain ⟨both, third⟩ := evaluates_and.mp evaluated
    obtain ⟨first, second, one, two⟩ := and_answers both
    obtain ⟨third, three⟩ := third.returns
    rw [holds_and (holds_and one two) three, holds_and one (holds_and two three), Bool.and_assoc]
  | or_assoc left middle right =>
    obtain ⟨both, third⟩ := evaluates_or.mp evaluated
    obtain ⟨first, second, one, two⟩ := or_answers both
    obtain ⟨third, three⟩ := third.returns
    rw [holds_or (holds_or one two) three, holds_or one (holds_or two three), Bool.or_assoc]
  | and _ _ ihOne ihOther =>
    obtain ⟨one, other⟩ := evaluates_and.mp evaluated
    rw [holds, holds, ihOne one, ihOther other]
  | or _ _ ihOne ihOther =>
    obtain ⟨one, other⟩ := evaluates_or.mp evaluated
    rw [holds, holds, ihOne one, ihOther other]

private theorem check_and (left right : Condition) (table : String) (columns : List String) :
    (and left right).check table columns = left.check table columns >>= fun _ => right.check table columns := by
  simp only [check, Condition.columns, List.forM_eq_forM, List.forM_append]

end Condition

namespace Relation

private theorem keep_eq_filter {test : Row → Except Error Bool} {rows : List Row}
    (tested : ∀ row ∈ rows, ∃ answer, test row = .ok answer) :
    keep test rows = .ok (rows.filter fun row => test row = .ok true) := by
  have ends : Except.Ends (keep test rows) (fun kept => ∀ row ∈ kept, row ∈ rows) fun _ => False := by
    refine keep_ends fun row member => ?_
    obtain ⟨answer, done⟩ := tested row member
    exact .of_returns ⟨answer, done, trivial⟩
  obtain ⟨kept, done, _⟩ := ends.returns
  rw [done, keep_eq_ok done]

/-- The rows that two conditions keep together are those that the second keeps of the rows of the first. -/
theorem filter_and {relation : Relation} {table : String} {first second : Condition}
    (evaluated : ∀ row ∈ relation.rows, (Condition.and first second).Evaluates table relation.columns row) :
    relation.filter table (.and first second) =
      relation.filter table first >>= fun kept => kept.filter table second := by
  have one row member := (Condition.evaluates_and.mp (evaluated row member)).1.returns
  have other row member := (Condition.evaluates_and.mp (evaluated row member)).2.returns
  have keptTwice : keep (fun row => second.holds table relation.columns row)
      (relation.rows.filter fun row => first.holds table relation.columns row = .ok true) =
        .ok (relation.rows.filter fun row => (first.and second).holds table relation.columns row = .ok true) := by
    rw [keep_eq_filter fun row member => other row (List.mem_of_mem_filter member), List.filter_filter]
    refine congrArg _ (List.filter_congr fun row member => ?_)
    obtain ⟨answer, answerSecond, one, other⟩ := Condition.and_answers (evaluated row member)
    rw [Condition.holds_and one other, one, other]
    cases answer <;> cases answerSecond <;> rfl
  have keptBoth := keep_eq_filter fun row member => (evaluated row member).returns
  simp only [filter, Condition.check_and, keep_eq_filter one, keptBoth, bind, Except.bind, pure, Except.pure]
  cases first.check table relation.columns with
  | error error => rfl
  | ok _ =>
    cases checked : second.check table relation.columns with
    | error error => simp only [checked]
    | ok _ => simp only [checked, keptTwice]

end Relation

/-- Over rows on which each atom of a condition has an answer, and with no NULL in its lists, the condition holds exactly
where it is true in three-valued logic. The answer is the one that is found in any order, it is the same however the sides
of AND and OR are ordered and grouped, and two conditions connected by AND keep the rows that one after the other keeps. -/
theorem Condition.holds_as_truth (table : String) (relation : Relation) (condition : Condition)
    (present : ∀ atom ∈ condition.atoms, atom.ListsNoNull)
    (evaluated : ∀ row ∈ relation.rows, condition.Evaluates table relation.columns row) :
    (∀ row ∈ relation.rows,
      condition.holds table relation.columns row = .ok (decide (condition.truth relation.columns row = .yes)) ∧
      (∀ answer, Answers table relation.columns row condition answer ↔
        condition.holds table relation.columns row = .ok answer) ∧
      ∀ other, condition.Rearranged other → other.holds table relation.columns row = condition.holds table relation.columns row) ∧
    ∀ first second, condition = .and first second →
      relation.filter table condition = relation.filter table first >>= fun kept => kept.filter table second := by
  refine ⟨fun row member => ⟨?_, fun answer => ⟨?_, ?_⟩, fun other same => ?_⟩, ?_⟩
  · exact holds_eq_truth present (evaluated row member)
  · exact holds_of_answers (evaluated row member)
  · exact answers_of_holds
  · exact same.holds_eq (evaluated row member)
  · rintro first second rfl
    exact Relation.filter_and evaluated

/-- For a row without a number both halves of a condition are unknown, and it fails, whichever half is looked at first. -/
theorem Condition.unknown_not_kept :
    let relation : Relation := ⟨["A", "B"], [[.null, .text "X"], [.int 2, .text "Y"], [.int 3, .text "X"]]⟩
    let first : Condition := .compare "A" .notEqual ⟨.literal, "1"⟩
    let second : Condition := .or (.member "A" .outside [⟨.literal, "3"⟩]) (.compare "B" .equal ⟨.ident, "Y"⟩)
    let row : Row := [.null, .text "X"]
    (∀ atom ∈ (and first second).atoms, atom.ListsNoNull) ∧
      (∀ row ∈ relation.rows, (and first second).Evaluates "T" relation.columns row) ∧
      (and first second).truth ["A", "B"] row = .unknown ∧ (and first second).holds "T" ["A", "B"] row = .ok false ∧
      (and second first).holds "T" ["A", "B"] row = .ok false ∧
      relation.filter "T" (.and first second) = .ok ⟨["A", "B"], [[.int 2, .text "Y"]]⟩ ∧
      relation.filter "T" first >>= (fun kept => kept.filter "T" second) = .ok ⟨["A", "B"], [[.int 2, .text "Y"]]⟩ := by
  intro relation first second row
  have present : ∀ atom ∈ (and first second).atoms, atom.ListsNoNull := by
    simp [first, second, atoms, ListsNoNull]
  have evaluated : ∀ row ∈ relation.rows, (and first second).Evaluates "T" relation.columns row := by
    intro row member atom inside
    have answered : ∀ row ∈ relation.rows, ∀ atom ∈ (and first second).atoms,
        atom.holds "T" relation.columns row = .ok true ∨ atom.holds "T" relation.columns row = .ok false := by
      decide
    rcases answered row member atom inside with done | done
    · exact ⟨true, done, trivial⟩
    · exact ⟨false, done, trivial⟩
  obtain ⟨onRows, twice⟩ := holds_as_truth "T" relation (and first second) present evaluated
  obtain ⟨holds, _, rearranged⟩ := onRows row (by decide)
  have kept : relation.filter "T" (.and first second) = .ok ⟨["A", "B"], [[.int 2, .text "Y"]]⟩ := by decide
  have unknown : (and first second).truth ["A", "B"] row = .unknown := by decide
  rw [show (and first second).truth relation.columns row = .unknown from unknown] at holds
  exact ⟨present, evaluated, unknown, holds, (rearranged _ (.and_comm _ _)).trans holds, kept, (twice _ _ rfl).symm.trans kept⟩

end MiniSql

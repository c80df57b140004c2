import MiniSql.Proofs.CommandOrder
import MiniSql.Proofs.GrammarProgress
import MiniSql.Proofs.Lexemes

/-! The commands some text can stand for. Every name is one word and every value one token in upper case,
and lists are empty only where nothing but parentheses holds them. -/

namespace MiniSql
open Token

/-- A list that is not empty and has only well-formed items. -/
def Filled (formed : α → Prop) (items : List α) : Prop := items ≠ [] ∧ ∀ item ∈ items, formed item

/-- A number, NULL, or a word with the text of any token, since any token can stand between apostrophes. -/
inductive Token.Formed : Token → Prop where
  | number {digits : String} (formed : Digits digits) : Formed ⟨.literal, digits⟩
  | null : Formed ⟨.keyword .NULL, Keyword.NULL.text⟩
  | word {inner : Token} {text : String} (scanned : inner ∈ scan text) : Formed ⟨.ident, inner.literal⟩

/-- A name that may be given to a table or a column. -/
def NewName (name : String) : Prop := Identifier name ∧ '.' ∉ name.toList

def SelectItem.Formed : SelectItem → Prop
  | .column name => Identifier name
  | .aggregate term => Identifier term.column

def Projection.Formed : Projection → Prop
  | .all => True
  | .items chosen => Filled SelectItem.Formed chosen

structure Join.Formed (join : Join) : Prop where
  table : Identifier join.table
  first : Identifier join.on.first
  second : Identifier join.on.second

structure Select.Formed (select : Select) : Prop where
  table : Identifier select.table
  projection : select.projection.Formed
  join : ∀ join ∈ select.join, join.Formed

structure Assignment.Formed (assignment : Assignment) : Prop where
  column : Identifier assignment.column
  value : assignment.value.Formed

def Condition.Formed : Condition → Prop
  | .and left right => left.Formed ∧ right.Formed
  | .or left right => left.Formed ∧ right.Formed
  | .constant _ => True
  | .compare column _ value => Identifier column ∧ value.Formed
  | .member column _ values => Identifier column ∧ Filled Token.Formed values

def Clause.Formed : Clause → Prop
  | .filter condition => condition.Formed
  | .orderBy keys => Filled (fun key => Identifier key.column) keys
  | .limit count => count ≤ Parser.maxCount
  | .offset count => count ≤ Parser.maxCount

def Command.Formed : Command → Prop
  | .createTable table columns => NewName table ∧ ∀ column ∈ columns, NewName column.name
  | .dropTable table => Identifier table
  | .insert table values => Identifier table ∧ ∀ value ∈ values, value.Formed
  | .select head => head.Formed
  | .update table assignments => Identifier table ∧ Filled Assignment.Formed assignments
  | .delete table => Identifier table
  | .clause part => part.Formed

/-- Well-formed commands in places where they may stand. -/
structure Command.WellFormed (commands : List Command) : Prop where
  formed : ∀ command ∈ commands, command.Formed
  chained : Chained commands

namespace Grammar

/-- From scanned tokens the rule yields only well-formed values. -/
def Yields (rule : Rule α) (formed : α → Prop) : Prop :=
  ∀ input value rest, (∀ token ∈ input, Scanned token) → rule input value rest → formed value

variable {input rest : List Token}

theorem scanned_suffix (suffix : rest <:+ input) (scanned : ∀ token ∈ input, Scanned token) :
    ∀ token ∈ rest, Scanned token := fun token member => scanned token (suffix.subset member)

section
variable {rule : Rule α} {formed : α → Prop}

theorem others_formed (consumes : Consumes rule) (yields : Yields rule formed) {values : List α}
    (scanned : ∀ token ∈ input, Scanned token) (others : Others rule input values rest) :
    ∀ value ∈ values, formed value := by
  induction others with
  | none => exact fun _ member => nomatch member
  | next one _ ih =>
    have inner := (List.forall_mem_cons.mp scanned).2
    exact List.forall_mem_cons.mpr ⟨yields _ _ _ inner one, ih (scanned_suffix (consumes.suffix one) inner)⟩

private theorem separated_yields (consumes : Consumes rule) (yields : Yields rule formed) :
    Yields (Separated rule) (Filled formed) := by
  intro input values rest scanned separated
  obtain ⟨first, others⟩ := separated
  have more := others_formed consumes yields (scanned_suffix (consumes.suffix first) scanned) others
  exact ⟨List.cons_ne_nil _ _, List.forall_mem_cons.mpr ⟨yields _ _ _ scanned first, more⟩⟩

theorem listed_yields (consumes : Consumes rule) (yields : Yields rule formed) :
    Yields (Listed rule) fun values => ∀ value ∈ values, formed value := by
  intro input values rest scanned listed
  cases listed with
  | none => exact fun _ member => nomatch member
  | some items => exact (separated_yields consumes yields _ _ _ (List.forall_mem_cons.mp scanned).2 items).2

end

private theorem constant_yields : Yields Constant Token.Formed := by
  intro input value rest scanned constant
  cases constant with
  | number =>
    obtain ⟨head, _⟩ := List.forall_mem_cons.mp scanned
    exact .number head.digits
  | null =>
    obtain ⟨head, _⟩ := List.forall_mem_cons.mp scanned
    rw [head.spelling]
    exact .null
  | quoted =>
    obtain ⟨_, inner, _⟩ := (List.forall_mem_cons.trans (and_congr_right' List.forall_mem_cons)).mp scanned
    obtain ⟨text, member⟩ := scanned_iff.mp inner
    exact .word member

private theorem expression_yields {level : Level} : Yields (Expression level) Condition.Formed := by
  intro input condition rest scanned derivation
  induction derivation with
  | conjunction _ ih => exact ih scanned
  | operand _ ih => exact ih scanned
  | or left _ first second =>
    have behind := (List.forall_mem_cons.mp (scanned_suffix (expression_consumes.suffix left) scanned)).2
    exact ⟨first scanned, second behind⟩
  | and left _ first second =>
    have behind := (List.forall_mem_cons.mp (scanned_suffix (expression_consumes.suffix left) scanned)).2
    exact ⟨first scanned, second behind⟩
  | parentheses _ ih => exact ih (List.forall_mem_cons.mp scanned).2
  | true => trivial
  | false => trivial
  | compare _ right =>
    simp only [List.forall_mem_cons] at scanned
    obtain ⟨name, _, behind⟩ := scanned
    exact ⟨name.identifier, constant_yields _ _ _ behind right⟩
  | member _ list =>
    simp only [List.forall_mem_cons] at scanned
    obtain ⟨name, _, _, behind⟩ := scanned
    exact ⟨name.identifier, separated_yields constant_consumes constant_yields _ _ _ behind list⟩

private theorem declaration_yields : Yields Declaration fun column => NewName column.name := by
  intro input column rest scanned declaration
  cases declaration with
  | intro plain => exact ⟨(List.forall_mem_cons.mp scanned).1.identifier, plain⟩

private theorem item_yields : Yields Item SelectItem.Formed := by
  intro input item rest scanned chosen
  cases chosen with
  | column => exact (List.forall_mem_cons.mp scanned).1.identifier
  | aggregate =>
    simp only [List.forall_mem_cons] at scanned
    obtain ⟨_, _, name, _⟩ := scanned
    exact name.identifier

private theorem selection_yields : Yields Selection Projection.Formed := by
  intro input columns rest scanned selection
  cases selection with
  | all => trivial
  | items listed => exact separated_yields item_consumes item_yields _ _ _ scanned listed

private theorem operands_yields {kind : JoinKind} : Yields (Operands kind) Join.Formed := by
  intro input join rest scanned operands
  cases operands
  simp only [List.forall_mem_cons] at scanned
  obtain ⟨_, table, _, first, _, second, _⟩ := scanned
  exact ⟨table.identifier, first.identifier, second.identifier⟩

theorem joined_yields : Yields Joined fun other => ∀ join ∈ other, Join.Formed join := by
  intro input other rest scanned joined
  cases joined with
  | absent => exact fun _ member => nomatch member
  | plain operands =>
    intro join same
    cases same
    exact operands_yields _ _ _ scanned operands
  | ofKind _ operands =>
    intro join same
    cases same
    exact operands_yields _ _ _ (List.forall_mem_cons.mp scanned).2 operands

private theorem setting_yields : Yields Setting Assignment.Formed := by
  intro input setting rest scanned assigned
  cases assigned with
  | intro right =>
    simp only [List.forall_mem_cons] at scanned
    obtain ⟨name, _, behind⟩ := scanned
    exact ⟨name.identifier, constant_yields _ _ _ behind right⟩

private theorem key_yields : Yields Key fun key => Identifier key.column := by
  intro input key rest scanned sorted
  cases sorted
  exact (List.forall_mem_cons.mp scanned).1.identifier

private theorem count_bound {number : Nat} (count : Count input number rest) : number ≤ Parser.maxCount := by
  cases count with
  | intro _ bound => exact bound

theorem phrase_yields {keyword : Keyword} : Yields (Phrase keyword) Command.Formed := by
  intro input command rest scanned phrase
  cases phrase with
  | createTable plain listed =>
    simp only [List.forall_mem_cons] at scanned
    obtain ⟨_, _, name, behind⟩ := scanned
    exact ⟨⟨name.identifier, plain⟩, listed_yields declaration_consumes declaration_yields _ _ _ behind listed⟩
  | dropTable =>
    simp only [List.forall_mem_cons] at scanned
    obtain ⟨_, _, name, _⟩ := scanned
    exact name.identifier
  | insert listed =>
    simp only [List.forall_mem_cons] at scanned
    obtain ⟨_, _, name, _, behind⟩ := scanned
    exact ⟨name.identifier, listed_yields constant_consumes constant_yields _ _ _ behind listed⟩
  | select distinct selection joined =>
    have chosen := scanned_suffix (distinct_suffix distinct) (List.forall_mem_cons.mp scanned).2
    have source := scanned_suffix (selection_consumes.suffix selection) chosen
    simp only [List.forall_mem_cons] at source
    obtain ⟨_, name, behind⟩ := source
    exact ⟨name.identifier, selection_yields _ _ _ chosen selection, joined_yields _ _ _ behind joined⟩
  | update settings =>
    simp only [List.forall_mem_cons] at scanned
    obtain ⟨_, name, _, behind⟩ := scanned
    exact ⟨name.identifier, separated_yields setting_consumes setting_yields _ _ _ behind settings⟩
  | delete =>
    simp only [List.forall_mem_cons] at scanned
    obtain ⟨_, _, name, _⟩ := scanned
    exact name.identifier
  | filter expression => exact expression_yields _ _ _ (List.forall_mem_cons.mp scanned).2 expression
  | orderBy listed =>
    simp only [List.forall_mem_cons] at scanned
    obtain ⟨_, _, behind⟩ := scanned
    exact separated_yields key_consumes key_yields _ _ _ behind listed
  | limit count => exact count_bound count
  | offset count => exact count_bound count

end Grammar

end MiniSql

import Mathlib.Data.List.Infix
import MiniSql.Proofs.Grammar

/-! What the rules leave. A rule leaves the end of its input, and all but the optional parts of a command
take at least one token. -/

namespace MiniSql.Grammar

/-- The rule takes a token and leaves an end of what is behind it. -/
def Consumes (rule : Rule α) : Prop :=
  ∀ input value rest, rule input value rest → ∃ token tail, input = token :: tail ∧ rest <:+ tail

variable {rule : Rule α} {input rest : List Token}

theorem Consumes.suffix (consumes : Consumes rule) {value : α} (derivation : rule input value rest) : rest <:+ input := by
  obtain ⟨token, tail, rfl, left⟩ := consumes _ _ _ derivation
  exact left.trans (List.suffix_cons token tail)

theorem Consumes.length (consumes : Consumes rule) {value : α} (derivation : rule input value rest) :
    rest.length < input.length := by
  obtain ⟨token, tail, rfl, left⟩ := consumes _ _ _ derivation
  exact Nat.lt_succ_of_le left.length_le

private theorem others_suffix (consumes : Consumes rule) {values : List α} (others : Others rule input values rest) :
    rest <:+ input := by
  induction others with
  | none => exact List.suffix_rfl
  | next one _ ih => exact ih.trans ((consumes.suffix one).trans (List.suffix_cons _ _))

theorem separated_consumes (consumes : Consumes rule) : Consumes (Separated rule) := by
  intro input values rest ⟨first, others⟩
  obtain ⟨token, tail, rfl, left⟩ := consumes _ _ _ first
  exact ⟨token, tail, rfl, (others_suffix consumes others).trans left⟩

private theorem listed_consumes (consumes : Consumes rule) : Consumes (Listed rule) := by
  intro input values rest listed
  cases listed with
  | none => exact ⟨_, _, rfl, List.suffix_cons _ _⟩
  | some items => exact ⟨_, _, rfl, (List.suffix_cons _ _).trans ((separated_consumes consumes).suffix items)⟩

theorem constant_consumes : Consumes Constant := by
  intro input value rest constant
  cases constant with
  | number | null => exact ⟨_, _, rfl, List.suffix_rfl⟩
  | quoted => exact ⟨_, _, rfl, [_, _], rfl⟩

theorem expression_consumes {level : Level} : Consumes (Expression level) := by
  intro input condition rest derivation
  induction derivation with
  | conjunction _ ih | operand _ ih => exact ih
  | or _ _ left right | and _ _ left right =>
    obtain ⟨token, tail, rfl, behind⟩ := left
    obtain ⟨_, _, rfl, last⟩ := right
    exact ⟨token, tail, rfl, last.trans (.trans ⟨[_, _], rfl⟩ behind)⟩
  | parentheses _ ih =>
    obtain ⟨_, _, rfl, behind⟩ := ih
    exact ⟨_, _, rfl, .trans ⟨[_], rfl⟩ (behind.trans (List.suffix_cons _ _))⟩
  | true | false => exact ⟨_, _, rfl, List.suffix_rfl⟩
  | compare _ right => exact ⟨_, _, rfl, (constant_consumes.suffix right).trans (List.suffix_cons _ _)⟩
  | member _ list =>
    exact ⟨_, _, rfl, .trans ⟨[_], rfl⟩ (((separated_consumes constant_consumes).suffix list).trans ⟨[_, _], rfl⟩)⟩

theorem declaration_consumes : Consumes Declaration := by
  intro input column rest ⟨_, _⟩
  exact ⟨_, _, rfl, List.suffix_cons _ _⟩

theorem item_consumes : Consumes Item := by
  intro input item rest chosen
  cases chosen with
  | column => exact ⟨_, _, rfl, List.suffix_rfl⟩
  | aggregate => exact ⟨_, _, rfl, [_, _, _], rfl⟩

theorem selection_consumes : Consumes Selection := by
  intro input columns rest selection
  cases selection with
  | all => exact ⟨_, _, rfl, List.suffix_rfl⟩
  | items listed => exact separated_consumes item_consumes _ _ _ listed

theorem setting_consumes : Consumes Setting := by
  intro input setting rest ⟨right⟩
  exact ⟨_, _, rfl, (constant_consumes.suffix right).trans (List.suffix_cons _ _)⟩

theorem key_consumes : Consumes Key := by
  intro input key rest ⟨_⟩
  exact ⟨_, _, rfl, List.suffix_cons _ _⟩

theorem count_consumes : Consumes Count := by
  intro input number rest ⟨_, _⟩
  exact ⟨_, _, rfl, List.suffix_rfl⟩

theorem distinct_suffix {repeated : Bool} (distinct : Distinct input repeated rest) : rest <:+ input := by
  cases distinct with
  | absent => exact List.suffix_rfl
  | present => exact List.suffix_cons _ _

private theorem operands_suffix {kind : JoinKind} {join : Join} (operands : Operands kind input join rest) : rest <:+ input := by
  cases operands
  exact ⟨[_, _, _, _, _, _], rfl⟩

private theorem joined_suffix {join : Option Join} (joined : Joined input join rest) : rest <:+ input := by
  cases joined with
  | absent => exact List.suffix_rfl
  | plain operands => exact operands_suffix operands
  | ofKind _ operands => exact (operands_suffix operands).trans (List.suffix_cons _ _)

private theorem end_suffix (closed : End input rest) : rest <:+ input := by
  cases closed with
  | semicolon => exact List.suffix_cons _ _
  | clause => exact List.suffix_rfl

theorem phrase_consumes {keyword : Keyword} : Consumes (Phrase keyword) := by
  intro input command rest phrase
  cases phrase with
  | createTable _ listed =>
    exact ⟨_, _, rfl, .trans ⟨[_], rfl⟩ (((listed_consumes declaration_consumes).suffix listed).trans ⟨[_, _], rfl⟩)⟩
  | dropTable => exact ⟨_, _, rfl, [_, _, _], rfl⟩
  | insert listed =>
    exact ⟨_, _, rfl, .trans ⟨[_], rfl⟩ (((listed_consumes constant_consumes).suffix listed).trans ⟨[_, _, _], rfl⟩)⟩
  | select distinct selection joined closed =>
    have source := (selection_consumes.suffix selection).trans (distinct_suffix distinct)
    exact ⟨_, _, rfl, (end_suffix closed).trans ((joined_suffix joined).trans (.trans ⟨[_, _], rfl⟩ source))⟩
  | update settings closed =>
    have ending := (separated_consumes setting_consumes).suffix settings
    exact ⟨_, _, rfl, (end_suffix closed).trans (ending.trans ⟨[_, _], rfl⟩)⟩
  | delete closed => exact ⟨_, _, rfl, (end_suffix closed).trans ⟨[_, _], rfl⟩⟩
  | filter expression closed => exact ⟨_, _, rfl, (end_suffix closed).trans (expression_consumes.suffix expression)⟩
  | orderBy listed closed =>
    have ending := (separated_consumes key_consumes).suffix listed
    exact ⟨_, _, rfl, (end_suffix closed).trans (ending.trans (List.suffix_cons _ _))⟩
  | limit count closed | offset count closed =>
    exact ⟨_, _, rfl, (end_suffix closed).trans (count_consumes.suffix count)⟩

end MiniSql.Grammar

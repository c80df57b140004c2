import MiniSql.Command.Print
import MiniSql.Proofs.WellFormed

/-! Printed commands follow the grammar. The parentheses of a printed condition are just those its rules
need, and each printed part is read back whatever comes behind it, as long as something breaks it off. -/

namespace MiniSql.Grammar
open Token Text

/-- The rule reads the text as the value and leaves what is behind it. -/
def Restores (rule : Rule α) (text : String) (value : α) : Prop :=
  ∀ rest, Breaks rest → rule (lex (text.toList ++ rest)) value (lex rest)

variable {rest : List Char}

theorem breaks_mark {char : Char} (mark : char ∈ [' ', ',', ';', '(', ')', '\'']) : Breaks (char :: rest) := by
  simp only [List.mem_cons, List.not_mem_nil, or_false] at mark
  rcases mark with rfl | rfl | rfl | rfl | rfl | rfl <;> exact .cons (upperFixed_of_lt (by decide)) rfl

theorem lex_mark {char : Char} (mark : char ∈ ['*', ',', ';', '(', ')', '\'']) :
    lex (char :: rest) = symbol char :: lex rest := by
  simp only [List.mem_cons, List.not_mem_nil, or_false] at mark
  have plain : char.toNat < 0x41 ∧ isSpace char = false ∧ char ≠ '\x00' ∧ char.isDigit = false := by
    rcases mark with rfl | rfl | rfl | rfl | rfl | rfl <;> decide
  obtain ⟨low, visible, nonzero, number⟩ := plain
  have letter : startsWord char = false := Bool.eq_false_iff.mpr fun starts => absurd (startsWord_le starts) (by omega)
  exact lex_symbol (upperFixed_of_lt (by omega)) ⟨visible, nonzero, number, letter⟩

theorem breaks_semicolon : Breaks (';' :: rest) := breaks_mark (by simp)

theorem lex_semicolon : lex (';' :: rest) = symbol ';' :: lex rest := lex_mark (by simp)

private theorem lex_keyword (keyword : Keyword) (breaks : Breaks rest) :
    lex (keyword.text.toList ++ rest) = ⟨.keyword keyword, keyword.text⟩ :: lex rest := by
  have own := lex_scanned (scanned_keyword keyword) breaks
  exact own

private theorem lex_keyword_space (keyword : Keyword) :
    lex (keyword.text.toList ++ ' ' :: rest) = ⟨.keyword keyword, keyword.text⟩ :: lex rest := by
  rw [lex_keyword keyword (breaks_mark (by simp)), lex_space]

private theorem lex_name {name : String} (identifier : Identifier name) (breaks : Breaks rest) :
    lex (name.toList ++ rest) = ⟨.ident, name⟩ :: lex rest := by
  have own := lex_scanned identifier.scanned breaks
  exact own

private theorem lex_name_space {name : String} (identifier : Identifier name) :
    lex (name.toList ++ ' ' :: rest) = ⟨.ident, name⟩ :: lex rest := by
  rw [lex_name identifier (breaks_mark (by simp)), lex_space]

private theorem Restores.closed {rule : Rule α} {text : String} {value : α} (restores : Restores rule text value) {mark : Char}
    (closing : mark = ';' ∨ mark = ')') (rest : List Char) :
    rule (lex (text.toList ++ mark :: rest)) value (symbol mark :: lex rest) := by
  have single : Breaks (mark :: rest) ∧ lex (mark :: rest) = symbol mark :: lex rest := by
    rcases closing with rfl | rfl
    · exact ⟨breaks_mark (by simp), lex_mark (by simp)⟩
    · exact ⟨breaks_mark (by simp), lex_mark (by simp)⟩
  rw [← single.2]
  exact restores (mark :: rest) single.1

/-- What stands behind the first text of a list. -/
def commaTail (texts : List String) : List Char := texts.flatMap fun text => ',' :: ' ' :: text.toList

theorem toList_intercalate_cons (separator first : String) (others : List String) :
    (separator.intercalate (first :: others)).toList =
      first.toList ++ others.flatMap fun text => separator.toList ++ text.toList := by
  induction others generalizing first with
  | nil => simp
  | cons second others ih =>
    have step : (separator.intercalate (first :: second :: others)).toList =
        first.toList ++ (separator.toList ++ (separator.intercalate (second :: others)).toList) := by
      simp [String.toList_intercalate]
    rw [step, ih second, List.flatMap_cons, List.append_assoc]

/-- Texts with a space between them have the tokens of the texts with a space in front of each. -/
theorem lex_intercalate_space (texts : List String) :
    lex (" ".intercalate texts).toList = lex (texts.flatMap fun text => ' ' :: text.toList) := by
  cases texts with
  | nil => rfl
  | cons first others =>
    rw [toList_intercalate_cons, List.flatMap_cons, List.cons_append, lex_space]
    rfl

theorem toList_commaList (first : String) (others : List String) :
    (commaList (first :: others)).toList = first.toList ++ commaTail others :=
  toList_intercalate_cons ", " first others

theorem breaks_commaTail {texts : List String} (breaks : Breaks rest) : Breaks (commaTail texts ++ rest) := by
  cases texts with
  | nil => exact breaks
  | cons text texts => exact breaks_mark (by simp)

section
variable {rule : Rule α} {render : α → String} {values : List α}

private theorem others_commaTail (each : ∀ value ∈ values, Restores rule (render value) value) (breaks : Breaks rest) :
    Others rule (lex (commaTail (values.map render) ++ rest)) values (lex rest) := by
  induction values with
  | nil => exact .none
  | cons value values ih =>
    obtain ⟨first, others⟩ := List.forall_mem_cons.mp each
    have split : commaTail ((value :: values).map render) ++ rest =
        ',' :: ' ' :: ((render value).toList ++ (commaTail (values.map render) ++ rest)) := by
      simp [commaTail]
    rw [split, lex_mark (by simp), lex_space]
    exact .next (first _ (breaks_commaTail breaks)) (ih others)

private theorem separated_restores (each : Filled (fun value => Restores rule (render value) value) values) :
    Restores (Separated rule) (commaList (values.map render)) values := by
  intro rest breaks
  obtain ⟨nonempty, each⟩ := each
  cases values with
  | nil => exact absurd rfl nonempty
  | cons value values =>
    obtain ⟨first, others⟩ := List.forall_mem_cons.mp each
    rw [List.map_cons, toList_commaList, List.append_assoc]
    exact .intro (first _ (breaks_commaTail breaks)) (others_commaTail others breaks)

private theorem listed_restores (each : ∀ value ∈ values, Restores rule (render value) value) (rest : List Char) :
    Listed rule (lex ('(' :: ((commaList (values.map render)).toList ++ ')' :: rest))) values (lex rest) := by
  rw [lex_mark (by simp)]
  by_cases empty : values = []
  · rw [empty]
    change Listed rule (_ :: lex (')' :: rest)) [] (lex rest)
    rw [lex_mark (by simp)]
    exact .none
  · exact .some ((separated_restores ⟨empty, each⟩).closed (.inr rfl) rest)

end

private theorem constant_restores {value : Token} (formed : value.Formed) : Restores Constant value.renderValue value := by
  intro rest breaks
  cases formed with
  | @number digits formed =>
    change Constant (lex (digits.toList ++ rest)) _ _
    rw [lex_scanned formed.scanned breaks]
    exact .number
  | null =>
    change Constant (lex (Keyword.NULL.text.toList ++ rest)) _ _
    rw [lex_keyword .NULL breaks]
    exact .null
  | @word inner text member =>
    have scanned := scanned_of_scan inner member
    have quoted : (renderValue ⟨.ident, inner.literal⟩).toList ++ rest =
        '\'' :: (inner.literal.toList ++ '\'' :: rest) := by
      simp [renderValue]
    rw [quoted, lex_mark (by simp), lex_scanned scanned (breaks_mark (by simp)), lex_mark (by simp)]
    exact .quoted scanned.kind_ne_eof

private theorem comparison_text (comparison : Comparison) : comparison.render = comparison.keyword.text := by
  cases comparison <;> rfl

private theorem membership_text (membership : Membership) : membership.render = membership.keyword.text := by
  cases membership <;> rfl

private theorem Expression.atLevel {input tail : List Token} {condition : Condition}
    (operand : Expression .operand input condition tail) (level : Level) : Expression level input condition tail := by
  cases level with
  | disjunction => exact .conjunction (.operand operand)
  | conjunction => exact .operand operand
  | operand => exact operand

/-- A condition that needs no parentheses where the grammar asks for this level. -/
def Tight : Level → Condition → Prop
  | .disjunction, _ => True
  | .conjunction, condition => condition.isOr = false
  | .operand, condition => condition.isOr = false ∧ condition.isAnd = false

private theorem parenthesised_restores {level : Level} {condition : Condition} {needed : Bool}
    (whole : Restores (Expression .disjunction) condition.render condition)
    (bare : needed = false → Restores (Expression level) condition.render condition) :
    Restores (Expression level) (Condition.parenthesised needed condition.render) condition := by
  cases needed with
  | false => exact bare rfl
  | true =>
    intro rest breaks
    have between : (Condition.parenthesised true condition.render).toList ++ rest =
        '(' :: (condition.render.toList ++ ')' :: rest) := by
      simp [Condition.parenthesised]
    rw [between, lex_mark (by simp)]
    exact (Expression.parentheses (whole.closed (.inr rfl) rest)).atLevel level

private theorem Restores.connective {level : Level} {text : String} {condition : Condition}
    (left : Restores (Expression level) text condition) (word : Keyword) (rest : List Char) :
    Expression level (lex (text.toList ++ ' ' :: (word.text.toList ++ ' ' :: rest))) condition
      (⟨.keyword word, word.text⟩ :: lex rest) := by
  have before := left (' ' :: (word.text.toList ++ ' ' :: rest)) (breaks_mark (by simp))
  rw [lex_space, lex_keyword_space] at before
  exact before

private theorem condition_restores {condition : Condition} (formed : condition.Formed) :
    ∀ level, Tight level condition → Restores (Expression level) condition.render condition := by
  induction condition with
  | or left right first second =>
    intro level tight rest breaks
    have split : (Condition.render (.or left right)).toList ++ rest = left.render.toList ++
        ' ' :: (Keyword.OR.text.toList ++ ' ' :: ((Condition.parenthesised right.isOr right.render).toList ++ rest)) := by
      simp [Condition.render, Keyword.text]
    have before := (first formed.1 .disjunction trivial).connective .OR
    have behind := parenthesised_restores (second formed.2 .disjunction trivial) (second formed.2 .conjunction) rest breaks
    rw [split]
    cases level with
    | disjunction => exact .or (before _) behind
    | conjunction => cases tight
    | operand => cases tight.1
  | and left right first second =>
    intro level tight rest breaks
    have split : (Condition.render (.and left right)).toList ++ rest =
        (Condition.parenthesised left.isOr left.render).toList ++ ' ' :: (Keyword.AND.text.toList ++
          ' ' :: ((Condition.parenthesised (right.isOr || right.isAnd) right.render).toList ++ rest)) := by
      simp [Condition.render, Keyword.text]
    have before := (parenthesised_restores (first formed.1 .disjunction trivial) (first formed.1 .conjunction)).connective .AND
    have behind := parenthesised_restores (second formed.2 .disjunction trivial)
      (fun plain => second formed.2 .operand (Bool.or_eq_false_iff.mp plain)) rest breaks
    rw [split]
    cases level with
    | disjunction => exact .conjunction (.and (before _) behind)
    | conjunction => exact .and (before _) behind
    | operand => cases tight.2
  | constant truth =>
    intro level _ rest breaks
    cases truth with
    | true =>
      change Expression level (lex (Keyword.TRUE.text.toList ++ rest)) _ _
      rw [lex_keyword .TRUE breaks]
      exact Expression.true.atLevel level
    | false =>
      change Expression level (lex (Keyword.FALSE.text.toList ++ rest)) _ _
      rw [lex_keyword .FALSE breaks]
      exact Expression.false.atLevel level
  | compare column comparison value =>
    intro level _ rest breaks
    obtain ⟨name, formed⟩ := formed
    have split : (Condition.render (.compare column comparison value)).toList ++ rest =
        column.toList ++ ' ' :: (comparison.keyword.text.toList ++ ' ' :: (value.renderValue.toList ++ rest)) := by
      simp [Condition.render, comparison_text]
    rw [split, lex_name_space name, lex_keyword_space]
    exact (Expression.compare rfl (constant_restores formed rest breaks)).atLevel level
  | member column membership values =>
    intro level _ rest breaks
    obtain ⟨name, nonempty, formed⟩ := formed
    have split : (Condition.render (.member column membership values)).toList ++ rest = column.toList ++
        ' ' :: (membership.keyword.text.toList ++ ' ' :: '(' :: ((commaList (values.map renderValue)).toList ++ ')' :: rest)) := by
      simp [Condition.render, membership_text, renderValues]
    have list := separated_restores ⟨nonempty, fun value member => constant_restores (formed value member)⟩
    rw [split, lex_name_space name, lex_keyword_space, lex_mark (by simp)]
    exact (Expression.member rfl (list.closed (.inr rfl) rest)).atLevel level

private theorem datatype_text (datatype : Datatype) : datatype.name = datatype.keyword.text := by
  cases datatype <;> rfl

private theorem direction_text (direction : Direction) : direction.render = direction.keyword.text := by
  cases direction <;> rfl

private theorem declaration_restores {column : ColumnDef} (formed : NewName column.name) :
    Restores Declaration column.render column := by
  intro rest breaks
  have split : column.render.toList ++ rest = column.name.toList ++ ' ' :: (column.datatype.keyword.text.toList ++ rest) := by
    simp [ColumnDef.render, datatype_text]
  rw [split, lex_name_space formed.1, lex_keyword _ breaks]
  exact .intro formed.2 rfl

private theorem item_restores {item : SelectItem} (formed : item.Formed) : Restores Item item.render item := by
  intro rest breaks
  cases item with
  | column name =>
    change Item (lex (name.toList ++ rest)) _ _
    rw [lex_name formed breaks]
    exact .column
  | aggregate term =>
    have split : term.render.toList ++ rest =
        term.function.keyword.text.toList ++ '(' :: (term.column.toList ++ ')' :: rest) := by
      simp [AggregateTerm.render, AggregateFunction.name]
    change Item (lex (term.render.toList ++ rest)) _ _
    rw [split, lex_keyword _ (breaks_mark (by simp)), lex_mark (by simp),
      lex_name formed (breaks_mark (by simp)), lex_mark (by simp)]
    exact .aggregate rfl

private theorem selection_restores {projection : Projection} (formed : projection.Formed) :
    Restores Selection projection.render projection := by
  intro rest breaks
  cases projection with
  | all =>
    change Selection (lex ('*' :: rest)) _ _
    rw [lex_mark (by simp)]
    exact .all
  | items chosen =>
    obtain ⟨nonempty, formed⟩ := formed
    have each : ∀ item ∈ chosen, Restores Item item.render item := fun item member => item_restores (formed item member)
    exact .items (separated_restores ⟨nonempty, each⟩ rest breaks)

theorem kind_text (kind : JoinKind) : kind = .inner ∨ kind.render = kind.keyword.text ++ " JOIN" := by
  cases kind with
  | inner => exact .inl rfl
  | left | right | full => exact .inr rfl

private theorem join_restores {join : Join} (formed : join.Formed) :
    Restores Joined join.render (some join) := by
  intro rest breaks
  obtain ⟨kind, table, first, second⟩ := join
  obtain ⟨table_formed, first_formed, second_formed⟩ := formed
  have operands (kind : JoinKind) : Operands kind (lex (Keyword.JOIN.text.toList ++ ' ' :: (table.toList ++
      ' ' :: (Keyword.ON.text.toList ++ ' ' :: (first.toList ++ ' ' :: (Keyword.EQUAL.text.toList ++ ' ' ::
        (second.toList ++ rest))))))) ⟨kind, table, first, second⟩ (lex rest) := by
    rw [lex_keyword_space, lex_name_space table_formed, lex_keyword_space, lex_name_space first_formed, lex_keyword_space,
      lex_name second_formed breaks]
    exact .intro
  rcases kind_text kind with same | named
  · subst kind
    simp only [Join.render, JoinKind.render, String.toList_append, List.append_assoc]
    exact .plain (operands .inner)
  · simp only [Join.render, named, String.toList_append, List.append_assoc]
    change Joined (lex (kind.keyword.text.toList ++ ' ' :: _)) _ _
    rw [lex_keyword_space]
    exact .ofKind rfl (operands kind)

private theorem setting_restores {assignment : Assignment} (formed : assignment.Formed) :
    Restores Setting assignment.render assignment := by
  intro rest breaks
  have split : assignment.render.toList ++ rest =
      assignment.column.toList ++ ' ' :: (Keyword.TO.text.toList ++ ' ' :: (assignment.value.renderValue.toList ++ rest)) := by
    simp [Assignment.render, Keyword.text]
  rw [split, lex_name_space formed.column, lex_keyword_space]
  exact .intro (constant_restores formed.value rest breaks)

private theorem key_restores {key : SortKey} (formed : Identifier key.column) : Restores Key key.render key := by
  intro rest breaks
  have split : key.render.toList ++ rest = key.column.toList ++ ' ' :: (key.direction.keyword.text.toList ++ rest) := by
    simp [SortKey.render, direction_text]
  rw [split, lex_name_space formed, lex_keyword _ breaks]
  exact .intro rfl

theorem digits_repr (number : Nat) : Digits number.repr := by
  rw [Digits, Nat.toList_repr]
  exact ⟨Nat.toDigits_ne_nil, fun char => Nat.isDigit_of_mem_toDigits (by decide) (by decide)⟩

private theorem unsigned?_repr (number : Nat) : Decimal.unsigned? number.repr.toList = some number := by
  have digits : number.repr.toList ≠ [] ∧ number.repr.toList.all Char.isDigit :=
    (digits_repr number).imp_right List.all_eq_true.mpr
  have value : Decimal.value number.repr.toList = number := by
    rw [Nat.toList_repr]
    exact Nat.ofDigitChars_ten_toDigits
  rw [Decimal.unsigned?, if_pos digits, value]

private theorem nat?_repr (number : Nat) : Decimal.nat? number.repr.toList = some number := by
  have digits := (digits_repr number).2
  unfold Decimal.nat?
  split
  next shape =>
    rw [shape] at digits
    cases (List.forall_mem_cons.mp digits).1
  · exact unsigned?_repr number

theorem int?_repr (number : Int) : Decimal.int? number.repr.toList = some number := by
  cases number with
  | ofNat size =>
    have digits := (digits_repr size).2
    change Decimal.int? size.repr.toList = some (size : Int)
    unfold Decimal.int?
    split
    next shape =>
      rw [shape] at digits
      cases (List.forall_mem_cons.mp digits).1
    next =>
      rw [nat?_repr]
      rfl
  | negSucc size =>
    have shown : (Int.negSucc size).repr.toList = '-' :: (size + 1).repr.toList := by simp [Int.repr]
    rw [shown, Decimal.int?, unsigned?_repr]
    rfl

private theorem count_restores {number : Nat} (bound : number ≤ Parser.maxCount) : Restores Count number.repr number := by
  intro rest breaks
  rw [lex_scanned (digits_repr number).scanned breaks]
  exact .intro (nat?_repr number) bound

private theorem distinct_restores (repeated : Bool) (rest : List Char) :
    Distinct (lex ((if repeated then "DISTINCT " else "").toList ++ rest)) repeated (lex rest) := by
  cases repeated with
  | false => exact .absent
  | true =>
    change Distinct (lex (Keyword.DISTINCT.text.toList ++ ' ' :: rest)) true (lex rest)
    rw [lex_keyword_space]
    exact .present

private theorem select_restores {select : Select} (formed : select.Formed) :
    Restores (Phrase .SELECT) (select.render ++ ";") (.select select) := by
  intro rest breaks
  obtain ⟨table, projection, repeated, join⟩ := select
  obtain ⟨name, columns, other⟩ := formed
  -- The table name is broken off by the space in front of a join or else by the semicolon.
  have source : ∃ text, (Select.render ⟨table, projection, repeated, join⟩ ++ ";").toList ++ rest =
      Keyword.SELECT.text.toList ++ ' ' :: ((if repeated then "DISTINCT " else "").toList ++ (projection.render.toList ++
        ' ' :: (Keyword.FROM.text.toList ++ ' ' :: (table.toList ++ text)))) ∧
      Breaks text ∧ Joined (lex text) join (symbol ';' :: lex rest) := by
    cases join with
    | none =>
      refine ⟨';' :: rest, by simp [Select.render, Keyword.text], breaks_semicolon, ?_⟩
      rw [lex_semicolon]
      exact .absent
    | some join =>
      refine ⟨' ' :: (join.render.toList ++ ';' :: rest), by simp [Select.render, Keyword.text], breaks_mark (by simp), ?_⟩
      rw [lex_space]
      exact (join_restores (other join rfl)).closed (.inl rfl) rest
  obtain ⟨text, split, joint, joined⟩ := source
  have selection := selection_restores columns (' ' :: (Keyword.FROM.text.toList ++ ' ' :: (table.toList ++ text)))
    (breaks_mark (by simp))
  rw [lex_space, lex_keyword_space, lex_name name joint] at selection
  rw [split, lex_keyword_space]
  exact .select (distinct_restores repeated _) selection joined .semicolon

private theorem clause_restores {part : Clause} (formed : part.Formed) :
    Restores (Phrase part.kind.keyword) (part.render ++ ";") (.clause part) := by
  intro rest breaks
  cases part with
  | filter condition =>
    have split : (Clause.render (.filter condition) ++ ";").toList ++ rest =
        Keyword.WHERE.text.toList ++ ' ' :: (condition.render.toList ++ ';' :: rest) := by
      simp [Clause.render, Keyword.text]
    have expression := (condition_restores formed .disjunction trivial).closed (.inl rfl) rest
    rw [split, lex_keyword_space]
    exact .filter expression .semicolon
  | orderBy keys =>
    obtain ⟨nonempty, formed⟩ := formed
    have split : (Clause.render (.orderBy keys) ++ ";").toList ++ rest = Keyword.ORDER.text.toList ++
        ' ' :: (Keyword.BY.text.toList ++ ' ' :: ((commaList (keys.map SortKey.render)).toList ++ ';' :: rest)) := by
      simp [Clause.render, Keyword.text]
    have listed := separated_restores ⟨nonempty, fun key member => key_restores (formed key member)⟩
    rw [split, lex_keyword_space, lex_keyword_space]
    exact .orderBy (listed.closed (.inl rfl) rest) .semicolon
  | limit count =>
    have split : (Clause.render (.limit count) ++ ";").toList ++ rest =
        Keyword.LIMIT.text.toList ++ ' ' :: (count.repr.toList ++ ';' :: rest) := by
      simp [Clause.render, Keyword.text]
    have number := (count_restores formed).closed (.inl rfl) rest
    rw [split, lex_keyword_space]
    exact .limit number .semicolon
  | offset count =>
    have split : (Clause.render (.offset count) ++ ";").toList ++ rest =
        Keyword.OFFSET.text.toList ++ ' ' :: (count.repr.toList ++ ';' :: rest) := by
      simp [Clause.render, Keyword.text]
    have number := (count_restores formed).closed (.inl rfl) rest
    rw [split, lex_keyword_space]
    exact .offset number .semicolon

theorem command_restores {command : Command} (formed : command.Formed) :
    Restores (Phrase command.keyword) command.render command := by
  intro rest breaks
  cases command with
  | createTable table columns =>
    obtain ⟨⟨name, plain⟩, formed⟩ := formed
    have split : (Command.render (.createTable table columns)).toList ++ rest =
        Keyword.CREATE.text.toList ++ ' ' :: (Keyword.TABLE.text.toList ++ ' ' :: (table.toList ++
          '(' :: ((commaList (columns.map ColumnDef.render)).toList ++ ')' :: ';' :: rest))) := by
      unfold Command.render
      simp [Keyword.text]
    have listed := listed_restores (fun column member => declaration_restores (formed column member)) (';' :: rest)
    rw [lex_semicolon] at listed
    rw [split, lex_keyword_space, lex_keyword_space, lex_name name (breaks_mark (by simp))]
    exact .createTable plain listed
  | dropTable table =>
    have split : (Command.render (.dropTable table)).toList ++ rest =
        Keyword.DROP.text.toList ++ ' ' :: (Keyword.TABLE.text.toList ++ ' ' :: (table.toList ++ ';' :: rest)) := by
      unfold Command.render
      simp [Keyword.text]
    rw [split, lex_keyword_space, lex_keyword_space, lex_name formed breaks_semicolon, lex_semicolon]
    exact .dropTable
  | insert table values =>
    obtain ⟨name, formed⟩ := formed
    have split : (Command.render (.insert table values)).toList ++ rest =
        Keyword.INSERT.text.toList ++ ' ' :: (Keyword.INTO.text.toList ++ ' ' :: (table.toList ++ ' ' ::
          (Keyword.VALUES.text.toList ++ '(' :: ((commaList (values.map renderValue)).toList ++ ')' :: ';' :: rest)))) := by
      unfold Command.render
      simp [renderValues, Keyword.text]
    have listed := listed_restores (fun value member => constant_restores (formed value member)) (';' :: rest)
    rw [lex_semicolon] at listed
    rw [split, lex_keyword_space, lex_keyword_space, lex_name_space name, lex_keyword _ (breaks_mark (by simp))]
    exact .insert listed
  | select head => exact select_restores formed rest breaks
  | update table assignments =>
    obtain ⟨name, nonempty, formed⟩ := formed
    have split : (Command.render (.update table assignments)).toList ++ rest =
        Keyword.UPDATE.text.toList ++ ' ' :: (table.toList ++ ' ' :: (Keyword.SET.text.toList ++ ' ' ::
          ((commaList (assignments.map Assignment.render)).toList ++ ';' :: rest))) := by
      unfold Command.render
      simp [Keyword.text]
    have settings := separated_restores ⟨nonempty, fun setting member => setting_restores (formed setting member)⟩
    rw [split, lex_keyword_space, lex_name_space name, lex_keyword_space]
    exact .update (settings.closed (.inl rfl) rest) .semicolon
  | delete table =>
    have split : (Command.render (.delete table)).toList ++ rest =
        Keyword.DELETE.text.toList ++ ' ' :: (Keyword.FROM.text.toList ++ ' ' :: (table.toList ++ ';' :: rest)) := by
      unfold Command.render
      simp [Keyword.text]
    rw [split, lex_keyword_space, lex_keyword_space, lex_name formed breaks_semicolon, lex_semicolon]
    exact .delete .semicolon
  | clause part => exact clause_restores formed rest breaks

end MiniSql.Grammar

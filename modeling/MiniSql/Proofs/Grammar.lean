import Mathlib.Data.Nat.Digits.Defs
import MiniSql.Command
import MiniSql.Parser.Clause

/-! The grammar of commands, rule by rule and without a parser. A rule relates the tokens in front of
it, what it stands for and the tokens behind it, so that a rule may look at the token that follows. -/

namespace MiniSql

def Comparison.keyword : Comparison → Keyword
  | .equal => .EQUAL
  | .notEqual => .NOT

def Membership.keyword : Membership → Keyword
  | .inside => .IN
  | .outside => .NOTIN

def Datatype.keyword : Datatype → Keyword
  | .int => .INT
  | .text => .TEXT

def Direction.keyword : Direction → Keyword
  | .ascending => .ASC
  | .descending => .DESC

def JoinKind.keyword : JoinKind → Keyword
  | .inner => .INNER
  | .left => .LEFT
  | .right => .RIGHT
  | .full => .FULL

def Command.keyword : Command → Keyword
  | .createTable _ _ => .CREATE
  | .dropTable _ => .DROP
  | .insert _ _ => .INSERT
  | .select _ => .SELECT
  | .update _ _ => .UPDATE
  | .delete _ => .DELETE
  | .clause part => part.kind.keyword

namespace Grammar

abbrev Rule (α : Type) := List Token → α → List Token → Prop

def Ahead (kind : TokenKind) (tokens : List Token) : Prop := ∃ literal rest, tokens = ⟨kind, literal⟩ :: rest

inductive Others (item : Rule α) : Rule (List α) where
  | none : Others item rest [] rest
  | next (one : item input value middle) (more : Others item middle values rest) :
      Others item (⟨.comma, spelling⟩ :: input) (value :: values) rest

/-- Items with commas between them, at least one. -/
inductive Separated (item : Rule α) : Rule (List α) where
  | intro (first : item input value middle) (others : Others item middle values rest) :
      Separated item input (value :: values) rest

/-- Items between parentheses, possibly none. -/
inductive Listed (item : Rule α) : Rule (List α) where
  | none : Listed item (⟨.leftParen, opening⟩ :: ⟨.rightParen, closing⟩ :: rest) [] rest
  | some (items : Separated item input values (⟨.rightParen, closing⟩ :: rest)) :
      Listed item (⟨.leftParen, opening⟩ :: input) values rest

/-- Between apostrophes any token counts, and counts as a word. -/
inductive Constant : Rule Token where
  | number : Constant (⟨.literal, digits⟩ :: rest) ⟨.literal, digits⟩ rest
  | null : Constant (⟨.keyword .NULL, spelling⟩ :: rest) ⟨.keyword .NULL, spelling⟩ rest
  | quoted {inner : Token} (inside : inner.kind ≠ .eof) :
      Constant (⟨.apostrophe, opening⟩ :: inner :: ⟨.apostrophe, closing⟩ :: rest) ⟨.ident, inner.literal⟩ rest

inductive Level where
  | disjunction | conjunction | operand

/-- A disjunction is made of conjunctions and a conjunction of operands, both grouped to the left. -/
inductive Expression : Level → Rule Condition where
  | conjunction (only : Expression .conjunction input condition rest) : Expression .disjunction input condition rest
  | or (left : Expression .disjunction input first (⟨.keyword .OR, spelling⟩ :: middle))
      (right : Expression .conjunction middle second rest) : Expression .disjunction input (.or first second) rest
  | operand (only : Expression .operand input condition rest) : Expression .conjunction input condition rest
  | and (left : Expression .conjunction input first (⟨.keyword .AND, spelling⟩ :: middle))
      (right : Expression .operand middle second rest) : Expression .conjunction input (.and first second) rest
  | parentheses (inner : Expression .disjunction input condition (⟨.rightParen, closing⟩ :: rest)) :
      Expression .operand (⟨.leftParen, opening⟩ :: input) condition rest
  | true : Expression .operand (⟨.keyword .TRUE, spelling⟩ :: rest) (.constant true) rest
  | false : Expression .operand (⟨.keyword .FALSE, spelling⟩ :: rest) (.constant false) rest
  | compare (sign : token.kind = .keyword comparison.keyword) (right : Constant input value rest) :
      Expression .operand (⟨.ident, column⟩ :: token :: input) (.compare column comparison value) rest
  | member (sign : token.kind = .keyword membership.keyword)
      (list : Separated Constant input values (⟨.rightParen, closing⟩ :: rest)) :
      Expression .operand (⟨.ident, column⟩ :: token :: ⟨.leftParen, opening⟩ :: input)
        (.member column membership values) rest

inductive Declaration : Rule ColumnDef where
  | intro {datatype : Datatype} (plain : '.' ∉ name.toList) (type : token.kind = .keyword datatype.keyword) :
      Declaration (⟨.ident, name⟩ :: token :: rest) ⟨name, datatype⟩ rest

inductive Item : Rule SelectItem where
  | column : Item (⟨.ident, name⟩ :: rest) (.column name) rest
  | aggregate {function : AggregateFunction} (name : token.kind = .keyword function.keyword) :
      Item (token :: ⟨.leftParen, opening⟩ :: ⟨.ident, column⟩ :: ⟨.rightParen, closing⟩ :: rest)
        (.aggregate ⟨function, column⟩) rest

inductive Selection : Rule Projection where
  | all : Selection (⟨.asterisk, spelling⟩ :: rest) .all rest
  | items (listed : Separated Item input items rest) : Selection input (.items items) rest

inductive Distinct : Rule Bool where
  | absent : Distinct rest false rest
  | present : Distinct (⟨.keyword .DISTINCT, spelling⟩ :: rest) true rest

inductive Operands (kind : JoinKind) : Rule Join where
  | intro :
      Operands kind (⟨.keyword .JOIN, a⟩ :: ⟨.ident, table⟩ :: ⟨.keyword .ON, b⟩ :: ⟨.ident, first⟩ ::
        ⟨.keyword .EQUAL, c⟩ :: ⟨.ident, second⟩ :: rest) ⟨kind, table, first, second⟩ rest

/-- A join without a kind is an inner one. -/
inductive Joined : Rule (Option Join) where
  | absent : Joined rest none rest
  | plain (operands : Operands .inner input join rest) : Joined input (some join) rest
  | ofKind {kind : JoinKind} (name : token.kind = .keyword kind.keyword) (operands : Operands kind input join rest) :
      Joined (token :: input) (some join) rest

inductive Setting : Rule Assignment where
  | intro (right : Constant input value rest) :
      Setting (⟨.ident, column⟩ :: ⟨.keyword .TO, spelling⟩ :: input) ⟨column, value⟩ rest

inductive Key : Rule SortKey where
  | intro {direction : Direction} (word : token.kind = .keyword direction.keyword) :
      Key (⟨.ident, column⟩ :: token :: rest) ⟨column, direction⟩ rest

inductive Count : Rule Nat where
  | intro (decimal : Text.Decimal.nat? digits.toList = some number) (bound : number ≤ Parser.maxCount) :
      Count (⟨.literal, digits⟩ :: rest) number rest

private theorem value_eq_ofDigits (digits : List Char) :
    Text.Decimal.value digits = Nat.ofDigits 10 (digits.map Text.Decimal.digit).reverse := by
  rw [Nat.ofDigits_eq_foldr, List.foldr_reverse, List.foldl_map, Text.Decimal.value]
  simp only [Nat.add_comm, Nat.cast_id]

private theorem unsigned?_eq_some {text : List Char} {number : Nat} : Text.Decimal.unsigned? text = some number ↔
    text ≠ [] ∧ (∀ char ∈ text, char.isDigit = true) ∧
      number = Nat.ofDigits 10 (text.map Text.Decimal.digit).reverse := by
  rw [Text.Decimal.unsigned?, value_eq_ofDigits, Option.ite_none_right_eq_some, Option.some_inj, List.all_eq_true,
    and_assoc, eq_comm (a := number)]

private theorem nat?_eq_some {text : List Char} {number : Nat} : Text.Decimal.nat? text = some number ↔
    ∃ digits, (text = digits ∨ text = '+' :: digits) ∧ digits ≠ [] ∧ (∀ char ∈ digits, char.isDigit = true) ∧
      number = Nat.ofDigits 10 (digits.map Text.Decimal.digit).reverse := by
  unfold Text.Decimal.nat?
  split
  next digits =>
    rw [unsigned?_eq_some]
    constructor
    · exact fun formed => ⟨digits, .inr rfl, formed⟩
    · rintro ⟨others, rfl | same, formed⟩
      · exact absurd (formed.2.1 '+' List.mem_cons_self) (by decide)
      · rwa [(List.cons.inj same).2]
  next unsigned =>
    rw [unsigned?_eq_some]
    constructor
    · exact fun formed => ⟨text, .inl rfl, formed⟩
    · rintro ⟨others, rfl | same, formed⟩
      · exact formed
      · exact absurd same (unsigned others)

/-- The count is the number that its digits stand for in decimal, the last of them counting least. -/
theorem count_iff {digits : String} {number : Nat} {rest : List Token} :
    Count (⟨.literal, digits⟩ :: rest) number rest ↔ number ≤ Parser.maxCount ∧
      ∃ figures, (digits.toList = figures ∨ digits.toList = '+' :: figures) ∧ figures ≠ [] ∧
        (∀ char ∈ figures, char.isDigit = true) ∧
        number = Nat.ofDigits 10 (figures.map Text.Decimal.digit).reverse := by
  rw [← nat?_eq_some]
  constructor
  · intro counted
    cases counted with
    | intro decimal bound => exact ⟨bound, decimal⟩
  · exact fun formed => .intro formed.2 formed.1

/-- A semicolon, or nothing in front of the keyword of a clause. -/
inductive End : List Token → List Token → Prop where
  | semicolon : End (⟨.semicolon, spelling⟩ :: rest) rest
  | clause {kind : ClauseKind} (ahead : Ahead (.keyword kind.keyword) rest) : End rest rest

inductive Phrase : Keyword → Rule Command where
  | createTable (plain : '.' ∉ table.toList) (listed : Listed Declaration input columns (⟨.semicolon, c⟩ :: rest)) :
      Phrase .CREATE (⟨.keyword .CREATE, a⟩ :: ⟨.keyword .TABLE, b⟩ :: ⟨.ident, table⟩ :: input)
        (.createTable table columns) rest
  | dropTable :
      Phrase .DROP (⟨.keyword .DROP, a⟩ :: ⟨.keyword .TABLE, b⟩ :: ⟨.ident, table⟩ :: ⟨.semicolon, c⟩ :: rest)
        (.dropTable table) rest
  | insert (listed : Listed Constant input values (⟨.semicolon, d⟩ :: rest)) :
      Phrase .INSERT (⟨.keyword .INSERT, a⟩ :: ⟨.keyword .INTO, b⟩ :: ⟨.ident, table⟩ :: ⟨.keyword .VALUES, c⟩ :: input)
        (.insert table values) rest
  | select (distinct : Distinct input repeated chosen)
      (projection : Selection chosen columns (⟨.keyword .FROM, b⟩ :: ⟨.ident, table⟩ :: source))
      (join : Joined source other ending) (closed : End ending rest) :
      Phrase .SELECT (⟨.keyword .SELECT, a⟩ :: input) (.select ⟨table, columns, repeated, other⟩) rest
  | update (settings : Separated Setting input assignments ending) (closed : End ending rest) :
      Phrase .UPDATE (⟨.keyword .UPDATE, a⟩ :: ⟨.ident, table⟩ :: ⟨.keyword .SET, b⟩ :: input)
        (.update table assignments) rest
  | delete (closed : End ending rest) :
      Phrase .DELETE (⟨.keyword .DELETE, a⟩ :: ⟨.keyword .FROM, b⟩ :: ⟨.ident, table⟩ :: ending) (.delete table) rest
  | filter (expression : Expression .disjunction input condition ending) (closed : End ending rest) :
      Phrase .WHERE (⟨.keyword .WHERE, a⟩ :: input) (.clause (.filter condition)) rest
  | orderBy (listed : Separated Key input keys ending) (closed : End ending rest) :
      Phrase .ORDER (⟨.keyword .ORDER, a⟩ :: ⟨.keyword .BY, b⟩ :: input) (.clause (.orderBy keys)) rest
  | limit (count : Count input number ending) (closed : End ending rest) :
      Phrase .LIMIT (⟨.keyword .LIMIT, a⟩ :: input) (.clause (.limit number)) rest
  | offset (count : Count input number ending) (closed : End ending rest) :
      Phrase .OFFSET (⟨.keyword .OFFSET, a⟩ :: input) (.clause (.offset number)) rest

inductive Optional (keyword : Keyword) : Rule (List Command) where
  | absent : Optional keyword rest [] rest
  | present (phrase : Phrase keyword input command rest) : Optional keyword input [command] rest

/-- LIMIT and OFFSET, each at most once and in either order. -/
inductive Window : Rule (List Command) where
  | absent : Window rest [] rest
  | limit (first : Phrase .LIMIT input command middle) (second : Optional .OFFSET middle offset rest) :
      Window input (command :: offset) rest
  | offset (first : Phrase .OFFSET input command middle) (second : Optional .LIMIT middle limit rest) :
      Window input (command :: limit) rest

inductive Chain : Rule (List Command) where
  | createTable (only : Phrase .CREATE input command rest) : Chain input [command] rest
  | dropTable (only : Phrase .DROP input command rest) : Chain input [command] rest
  | insert (only : Phrase .INSERT input command rest) : Chain input [command] rest
  | select (head : Phrase .SELECT input command behind) (filter : Optional .WHERE behind filters filtered)
      (order : Optional .ORDER filtered orders ordered) (window : Window ordered windows rest) :
      Chain input (command :: filters ++ orders ++ windows) rest
  | update (head : Phrase .UPDATE input command behind) (filter : Optional .WHERE behind filters rest) :
      Chain input (command :: filters) rest
  | delete (head : Phrase .DELETE input command behind) (filter : Phrase .WHERE behind condition rest) :
      Chain input [command, condition] rest

/-- A program is any number of chains. -/
inductive Program : List Token → List Command → Prop where
  | nil : Program [] []
  | cons (first : Chain input commands middle) (others : Program middle more) : Program input (commands ++ more)

end Grammar

end MiniSql

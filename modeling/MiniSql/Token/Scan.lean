import MiniSql.Text.Numeric
import MiniSql.Text.Upper
import MiniSql.Token

/-! Reading text as tokens. The whole text is folded to upper case first, quoted values included.
Each token is the longest run of its class, and a zero character ends the text. -/

namespace MiniSql.Token
open Text

/-- The characters between tokens. Other blank characters are not skipped; they are illegal. -/
def isSpace (char : Char) : Bool := char == ' ' || char == '\t' || char == '\n' || char == '\r'

def startsWord (char : Char) : Bool := isAlphabetic char || char == '_'

def continuesWord (char : Char) : Bool := isAlphanumeric char || char == '_' || char == '.'

/-- The first token and the text behind it, or nothing at the end of the text. -/
def next? (text : List Char) : Option (Token × List Char) :=
  match text.dropWhile isSpace with
  | [] => none
  | char :: rest =>
    if char = '\x00' then none
    else if char.isDigit then
      some (⟨.literal, String.ofList (char :: rest.takeWhile Char.isDigit)⟩, rest.dropWhile Char.isDigit)
    else if startsWord char then
      some (word (String.ofList (char :: rest.takeWhile continuesWord)), rest.dropWhile continuesWord)
    else some (symbol char, rest)

theorem length_dropWhile_le (p : Char → Bool) (text : List Char) : (text.dropWhile p).length ≤ text.length :=
  (List.dropWhile_sublist p).length_le

theorem length_of_next? {text rest : List Char} {token : Token} (found : next? text = some (token, rest)) :
    rest.length < text.length := by
  have skipped := length_dropWhile_le isSpace text
  unfold next? at found
  split at found
  · cases found
  next char tail shape =>
    rw [shape, List.length_cons] at skipped
    have digits := length_dropWhile_le Char.isDigit tail
    have letters := length_dropWhile_le continuesWord tail
    split at found
    · cases found
    split at found
    · cases found; omega
    split at found <;> (cases found; omega)

/-- All tokens in front of the end of the text. -/
def scanChars (text : List Char) : List Token :=
  match _ : next? text with
  | none => []
  | some (token, rest) => token :: scanChars rest
termination_by text.length
decreasing_by exact length_of_next? ‹_›

def scan (text : String) : List Token := scanChars (upperChars text.toList)

/-- The next token of a text already folded, and the text that is left. At the end of the text and in front of a zero
character it is the end token, and what is left stays there. -/
def next (text : List Char) : Token × List Char := (next? text).getD (eof, text.dropWhile isSpace)

theorem length_of_next {text : List Char} (other : (next text).1.kind ≠ .eof) : (next text).2.length < text.length := by
  unfold next at other ⊢
  cases found : next? text with
  | none =>
    rw [found] at other
    exact absurd rfl other
  | some answer => exact length_of_next? found

/-- The answers to `count` requests for the next token. -/
def nexts : Nat → List Char → List Token
  | 0, _ => []
  | count + 1, text => (next text).1 :: nexts count (next text).2

end MiniSql.Token

namespace MiniSql

/-- A lexer to be iterated over: the text not read yet, and whether the end token has been given. -/
structure Lexer where
  text : List Char
  done : Bool

namespace Lexer

def start (text : String) : Lexer := ⟨Text.upperChars text.toList, false⟩

/-- The end token is the last that is given. -/
def next? (lexer : Lexer) : Option (Token × Lexer) :=
  if lexer.done then none
  else
    let (token, rest) := Token.next lexer.text
    some (token, ⟨rest, token.kind == .eof⟩)

/-- A bound on the tokens that it still gives. -/
def left (lexer : Lexer) : Nat := if lexer.done then 0 else lexer.text.length + 1

theorem left_of_next? {lexer after : Lexer} {token : Token} (given : lexer.next? = some (token, after)) :
    after.left < lexer.left := by
  unfold next? at given
  split at given
  · cases given
  next going =>
    cases given
    change left ⟨(Token.next lexer.text).2, (Token.next lexer.text).1.kind == .eof⟩ < lexer.left
    by_cases ended : (Token.next lexer.text).1.kind = .eof
    · simp only [left, ended, beq_self_eq_true, if_true, if_neg going]
      exact Nat.succ_pos _
    · simp only [left, beq_eq_false_iff_ne.mpr ended, Bool.false_eq_true, if_false, if_neg going]
      exact Nat.succ_lt_succ (Token.length_of_next ended)

/-- All that a lexer still gives. -/
def tokens (lexer : Lexer) : List Token :=
  match _ : lexer.next? with
  | none => []
  | some (token, after) => token :: after.tokens
termination_by lexer.left
decreasing_by exact left_of_next? ‹_›

end Lexer

/-- The tokens of a text up to the end token. -/
def Token.scanToEnd (text : String) : List Token := (Lexer.start text).tokens

end MiniSql

/-! Tokens: a kind and the text it was read from. A keyword carries its own kind, so a parser can
ask for it; every other word is an identifier. -/

namespace MiniSql

inductive Keyword where
  | CREATE | TABLE | DROP
  | TEXT | INT
  | INSERT | INTO | VALUES | NULL | SELECT | DISTINCT | FROM | UPDATE | SET | TO | DELETE
  | WHERE | AND | OR | NOT | EQUAL | IN | NOTIN | TRUE | FALSE
  | ORDER | BY | ASC | DESC | LIMIT | OFFSET
  | JOIN | INNER | LEFT | RIGHT | FULL | ON
  | MIN | MAX | COUNT | SUM | AVG
  deriving DecidableEq

namespace Keyword

def all : List Keyword :=
  [CREATE, TABLE, DROP, TEXT, INT, INSERT, INTO, VALUES, NULL, SELECT, DISTINCT, FROM, UPDATE, SET, TO, DELETE,
   WHERE, AND, OR, NOT, EQUAL, IN, NOTIN, TRUE, FALSE, ORDER, BY, ASC, DESC, LIMIT, OFFSET,
   JOIN, INNER, LEFT, RIGHT, FULL, ON, MIN, MAX, COUNT, SUM, AVG]

def text : Keyword → String
  | CREATE => "CREATE" | TABLE => "TABLE" | DROP => "DROP"
  | TEXT => "TEXT" | INT => "INT"
  | INSERT => "INSERT" | INTO => "INTO" | VALUES => "VALUES" | NULL => "NULL" | SELECT => "SELECT"
  | DISTINCT => "DISTINCT" | FROM => "FROM" | UPDATE => "UPDATE" | SET => "SET" | TO => "TO" | DELETE => "DELETE"
  | WHERE => "WHERE" | AND => "AND" | OR => "OR" | NOT => "NOT" | EQUAL => "EQUAL" | IN => "IN"
  | NOTIN => "NOTIN" | TRUE => "TRUE" | FALSE => "FALSE"
  | ORDER => "ORDER" | BY => "BY" | ASC => "ASC" | DESC => "DESC" | LIMIT => "LIMIT" | OFFSET => "OFFSET"
  | JOIN => "JOIN" | INNER => "INNER" | LEFT => "LEFT" | RIGHT => "RIGHT" | FULL => "FULL" | ON => "ON"
  | MIN => "MIN" | MAX => "MAX" | COUNT => "COUNT" | SUM => "SUM" | AVG => "AVG"

/-- Keywords are spelled in upper case only; the lexer has folded the text before it asks. -/
def ofText? (word : String) : Option Keyword := all.find? fun keyword => keyword.text == word

end Keyword

inductive TokenKind where
  | asterisk | comma | semicolon | leftParen | rightParen | apostrophe
  | ident
  | literal
  | eof
  | illegal
  | keyword (word : Keyword)
  deriving DecidableEq

def TokenKind.name : TokenKind → String
  | .asterisk => "ASTERISK"
  | .comma => "COMMA"
  | .semicolon => "SEMICOLON"
  | .leftParen => "LPAREN"
  | .rightParen => "RPAREN"
  | .apostrophe => "APOSTROPHE"
  | .ident => "IDENT"
  | .literal => "LITERAL"
  | .eof => "EOF"
  | .illegal => "ILLEGAL"
  | .keyword word => word.text

structure Token where
  kind : TokenKind
  literal : String
  deriving DecidableEq

namespace Token

def eof : Token := ⟨.eof, ""⟩

/-- A run of letters is a keyword or an identifier. -/
def word (text : String) : Token :=
  match Keyword.ofText? text with
  | some keyword => ⟨.keyword keyword, text⟩
  | none => ⟨.ident, text⟩

def symbolKind : Char → TokenKind
  | '*' => .asterisk
  | ',' => .comma
  | ';' => .semicolon
  | '(' => .leftParen
  | ')' => .rightParen
  | '\'' => .apostrophe
  | _ => .illegal

def symbol (char : Char) : Token := ⟨symbolKind char, String.singleton char⟩

end Token

end MiniSql

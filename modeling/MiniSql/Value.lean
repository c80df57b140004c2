import MiniSql.Error
import MiniSql.Text.Decimal
import MiniSql.Token

/-! Cell values. NULL fits every column, equals nothing when a condition compares it, and comes
first when rows are ordered; an integer and a text are never comparable. -/

namespace MiniSql

inductive Datatype where
  | int
  | text
  deriving DecidableEq

def Datatype.name : Datatype → String
  | .int => "INT"
  | .text => "TEXT"

/-- Integers are those of 64 bits with a sign. -/
def minInteger : Int := -9223372036854775808

def maxInteger : Int := 9223372036854775807

def fitsInteger (number : Int) : Bool := minInteger ≤ number && number ≤ maxInteger

inductive Value where
  | null
  | int (number : Int)
  | text (content : String)
  deriving DecidableEq

namespace Value

/-- A number is an integer, a word stands for the quoted text it came from, and NULL is itself. -/
def ofToken (token : Token) : Except Error Value :=
  match token.kind with
  | .literal =>
    match Text.Decimal.int? token.literal.toList with
    | some number => if fitsInteger number then .ok (.int number) else .error (.unsupportedValue token.literal)
    | none => .error (.unsupportedValue token.literal)
  | .ident => .ok (.text token.literal)
  | .keyword .NULL => .ok .null
  | kind => .error (.unsupportedValue kind.name)

def datatype? : Value → Option Datatype
  | null => none
  | int _ => some .int
  | text _ => some .text

def typeName (value : Value) : String :=
  match value.datatype? with
  | some datatype => datatype.name
  | none => "NULL"

def fits (value : Value) (datatype : Datatype) : Bool :=
  match value.datatype? with
  | some own => own == datatype
  | none => true

def render : Value → String
  | null => "NULL"
  | int number => number.repr
  | text content => "'" ++ content ++ "'"

/-- The order of values, undefined between an integer and a text. Texts are ordered by code point. -/
def compare? : Value → Value → Option Ordering
  | null, null => some .eq
  | null, _ => some .lt
  | _, null => some .gt
  | int left, int right => some (compare left right)
  | text left, text right => some (compare left right)
  | _, _ => none

/-- Equality as conditions see it: no answer when NULL takes part, an error between types. -/
def equal? (command : String) (left right : Value) : Except Error (Option Bool) :=
  match left.datatype?, right.datatype? with
  | some expected, some actual =>
    if expected = actual then .ok (some (left == right))
    else .error (.valueType expected.name actual.name command)
  | _, _ => .ok none

end Value

end MiniSql

/-! Decimal numbers: one or more ASCII digits after an optional sign, which for a natural number
can only be a plus. Leading zeros do not matter. -/

namespace MiniSql.Text.Decimal

def digit (char : Char) : Nat := char.toNat - '0'.toNat

def value (digits : List Char) : Nat := digits.foldl (fun total char => 10 * total + digit char) 0

def unsigned? (text : List Char) : Option Nat :=
  if text ≠ [] ∧ text.all Char.isDigit then some (value text) else none

def nat? : List Char → Option Nat
  | '+' :: digits => unsigned? digits
  | digits => unsigned? digits

def int? : List Char → Option Int
  | '-' :: digits => (unsigned? digits).map fun number => -(number : Int)
  | text => (nat? text).map Int.ofNat

end MiniSql.Text.Decimal

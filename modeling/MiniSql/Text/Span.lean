/-! Character classes as spans of code points. -/

namespace MiniSql.Text

/-- The first and the last code point of a span. -/
abbrev Span := Nat × Nat

/-- Membership in ascending disjoint spans: the search stops at the first span that begins later. -/
def inSpans : List Span → Nat → Bool
  | [], _ => false
  | (first, last) :: spans, code =>
    if code < first then false else if code ≤ last then true else inSpans spans code

end MiniSql.Text

/-!
# Ranges of code points

Properties of characters are given by tables: lists of closed ranges of code points, in increasing
order. `CodeRange.covers` asks a table about one character.
-/

namespace LocaleKeys.Text

/-- A closed range of code points. -/
structure CodeRange where
  /-- The least code point of the range. -/
  first : Nat
  /-- The greatest code point of the range. -/
  last : Nat
  deriving DecidableEq, Repr

namespace CodeRange

/-- Does the range hold this character? -/
def holds (r : CodeRange) (c : Char) : Bool :=
  r.first ≤ c.toNat && c.toNat ≤ r.last

/-- Does one of the ranges hold this character? -/
def covers (rs : List CodeRange) (c : Char) : Bool :=
  rs.any (·.holds c)

end CodeRange

end LocaleKeys.Text

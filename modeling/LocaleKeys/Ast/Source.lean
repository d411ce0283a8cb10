import LocaleKeys.Text.Utf8

/-!
# Sources

The bytes of a file, and the places in them. Lines end at line feeds and columns count bytes, so a
place is described without decoding anything.
-/

namespace LocaleKeys.Ast

/-- The bytes of a file. -/
abbrev Source := List UInt8

namespace Source

/-- The byte that ends a line. -/
def lineFeed : UInt8 := 10

/-- Line and column of the place that lies `offset` bytes behind the place with a known line and
column. A column counts bytes. -/
def placeFrom (line column : Nat) : (source : Source) → (offset : Nat) → Nat × Nat
  | b :: rest, offset + 1 =>
    if b = lineFeed then placeFrom (line + 1) 1 rest offset
    else placeFrom line (column + 1) rest offset
  | _, _ => (line, column)

/-- Line and column of a place, both counted from one. -/
def placeAt (source : Source) (offset : Nat) : Nat × Nat :=
  placeFrom 1 1 source offset

/-- The text between two places. -/
def textBetween (source : Source) (start stop : Nat) : String :=
  Text.decoded ((source.drop start).take (stop - start))

end Source

end LocaleKeys.Ast

import LocaleKeys.Text.Case.Table

/-!
# Letter case

The full lower-case form of a text. It differs from a character-wise map in two places: a capital I
with a dot becomes two characters, and a capital sigma at the end of a word takes its final form.
-/

namespace LocaleKeys.Text

/-- Does the row describe this character? -/
def LowerRow.holds (r : LowerRow) (c : Char) : Bool :=
  r.first ≤ c.toNat && c.toNat ≤ r.last && (c.toNat - r.first) % r.stride == 0

/-- The lower-case form of a character that has a form of one character, and any other character
itself. -/
def lowerChar (c : Char) : Char :=
  match lowerRows.find? (·.holds c) with
  | some r => Char.ofNat (c.toNat + r.shift).toNat
  | none => c

/-- Is the next character, passing over those that do not count, one that has case? -/
def casedNext (cs : List Char) : Bool :=
  (cs.dropWhile (CodeRange.covers caseIgnorableRanges)).head?.any (CodeRange.covers casedRanges)

/-- Does a capital sigma end a word? `before` is what precedes it, nearest character first, and
`after` is what follows. -/
def endsWord (before after : List Char) : Bool :=
  casedNext before && !casedNext after

/-- The lower-case form of a text that follows the characters `before`, nearest first. -/
def lowerAfter (before : List Char) : List Char → List Char
  | [] => []
  | c :: rest =>
    let form :=
      if c = 'Σ' then [if endsWord before rest then 'ς' else 'σ']
      else if c = 'İ' then ['i', '\u0307']
      else [lowerChar c]
    form ++ lowerAfter (c :: before) rest

/-- The lower-case form of a text. -/
def lower (cs : List Char) : List Char :=
  lowerAfter [] cs

/-- The lower-case form of a string. -/
def lowered (s : String) : String :=
  String.ofList (lower s.toList)

/-- The capital form of a character where that form is written in ASCII, and any other character
itself. Enough to compare a text with names written in ASCII capitals: no other character has a
capital form that could stand in such a name. -/
def asciiCapital (c : Char) : List Char :=
  if 'a' ≤ c ∧ c ≤ 'z' then [Char.ofNat (c.toNat - 32)]
  else if c = 'ı' then ['I']
  else if c = 'ſ' then ['S']
  else if c = 'ß' then ['S', 'S']
  else if c = 'ﬀ' then ['F', 'F']
  else if c = 'ﬁ' then ['F', 'I']
  else if c = 'ﬂ' then ['F', 'L']
  else if c = 'ﬃ' then ['F', 'F', 'I']
  else if c = 'ﬄ' then ['F', 'F', 'L']
  else if c = 'ﬅ' ∨ c = 'ﬆ' then ['S', 'T']
  else [c]

/-- A string with every character that has an ASCII capital form replaced by it. -/
def asciiCapitals (s : String) : String :=
  String.ofList (s.toList.flatMap asciiCapital)

end LocaleKeys.Text

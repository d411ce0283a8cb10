import LocaleKeys.Text.CodeRange

/-!
# Blank characters

The white space of Unicode together with the four information separators U+001C to U+001F.
Trimming removes such characters from the ends of a text.
-/

namespace LocaleKeys.Text

/-- The blank characters, as ranges of code points. -/
def blankRanges : List CodeRange :=
  [⟨0x9, 0xd⟩, ⟨0x1c, 0x20⟩, ⟨0x85, 0x85⟩, ⟨0xa0, 0xa0⟩, ⟨0x1680, 0x1680⟩, ⟨0x2000, 0x200a⟩,
    ⟨0x2028, 0x2029⟩, ⟨0x202f, 0x202f⟩, ⟨0x205f, 0x205f⟩, ⟨0x3000, 0x3000⟩]

/-- Is the character blank? -/
def isBlank (c : Char) : Bool :=
  CodeRange.covers blankRanges c

/-- A text without the blank characters at its start. -/
def trimStart (cs : List Char) : List Char :=
  cs.dropWhile isBlank

/-- A text without the blank characters at its end. -/
def trimEnd (cs : List Char) : List Char :=
  (cs.reverse.dropWhile isBlank).reverse

/-- A text without the blank characters at either end. -/
def trim (cs : List Char) : List Char :=
  trimEnd (trimStart cs)

/-- A string without the blank characters at either end. -/
def trimmed (s : String) : String :=
  String.ofList (trim s.toList)

end LocaleKeys.Text

/-!
# Terminals

A command prints on a terminal that takes more than plain text: tags in brackets, such as `[bold]`,
set the look of what stands between them, names of emoji between colons stand for the emoji, and a
line that is too long is broken. What a terminal makes of a text is its own affair. A command only
guards the texts that it did not write itself, so that nothing in them is taken for a tag.
-/

namespace LocaleKeys

/-- A terminal, by what it makes of texts. -/
structure Terminal where
  /-- A text with guards, so that nothing in it is taken for a tag. -/
  guarded : String → String
  /-- What is shown of a text with tags where no line is broken. -/
  shown : String → String
  /-- The lines that show a text with tags, broken where they are too long. -/
  lines : String → List String

end LocaleKeys

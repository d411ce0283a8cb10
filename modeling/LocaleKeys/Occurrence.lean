import LocaleKeys.Text.Blank
import LocaleKeys.Text.Lines

/-!
# Occurrences

A use of a key in a file, as it is found in the end.
-/

namespace LocaleKeys

/-- A use of a key. -/
structure Occurrence where
  /-- The key in full. -/
  key : String
  /-- The key as it is written. -/
  raw : String
  /-- The path of the file. -/
  path : String
  /-- The line. -/
  line : Nat
  /-- The column. -/
  column : Nat
  /-- The trimmed text of the line. -/
  text : String
  /-- The default text, if a literal one is given. -/
  default : Option String := none
  deriving DecidableEq, Repr, Inhabited

/-- A file as it is scanned. -/
structure Document where
  /-- The path of the file. -/
  path : String
  /-- The lines of the file. -/
  lines : List String
  deriving DecidableEq, Repr, Inhabited

namespace Document

/-- The file with a text. -/
def ofText (path text : String) : Document where
  path
  lines := Text.lines text

/-- The trimmed text of a line, counted from one, and nothing where there is no such line. -/
def lineText (d : Document) (n : Nat) : String :=
  if n = 0 then "" else Text.trimmed (d.lines[n - 1]?.getD "")

end Document

end LocaleKeys

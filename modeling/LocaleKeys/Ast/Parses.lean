import LocaleKeys.Ast.Node

/-!
# Known parses

The grammar itself is not part of this library: syntax trees come from outside. A table of parses
serves as the parser of the sources in it.
-/

namespace LocaleKeys.Ast

/-- What reads a source: its syntax tree, from its bytes. -/
abbrev Parser := Source → Node

/-- Sources with their trees. -/
abbrev Parses := List (Source × Node)

namespace Parses

/-- The tree of a source in which there is nothing. -/
def empty : Node := ⟨{ kind := .other "program" }, []⟩

/-- The parser that knows the sources of a table, and finds nothing in others. -/
def parser (parses : Parses) : Parser := fun source =>
  (parses.lookup source).getD empty

end Parses

end LocaleKeys.Ast

import LocaleKeys.Hint
import LocaleKeys.Ast.Defect

/-!
# Scans

The scan of a file lists all uses of keys in it, those that comments declare first. It may start
from a text, from the bytes of a file, or from a syntax tree.
-/

namespace LocaleKeys

open Ast

/-- What comes of a scan: what it said, and the uses of keys or what stopped it. -/
structure Report where
  /-- What the scan said, in order. -/
  events : List Event
  /-- The uses of keys, or what stopped the scan. -/
  outcome : Except Fault (List Occurrence)

/-- A syntax tree with its text, unless it was made without one. -/
structure SyntaxTree where
  /-- The root of the tree. -/
  root : Node
  /-- Does the tree carry its text? -/
  hasText : Bool := true

namespace SyntaxTree

/-- The text of a tree. The root begins with its first token; what precedes it is blank. -/
def text? (tree : SyntaxTree) : Option String :=
  if tree.hasText then
    some (String.ofList (List.replicate (tree.root.line - 1) '\n' ++
      List.replicate (tree.root.column - 1) ' ' ++ tree.root.text.toList))
  else none

end SyntaxTree

namespace Scan

/-- The scan of a file whose tree has no defect. -/
def document (parse : Parser) (settings : Settings) (d : Document) (root : Node) : Report :=
  let index := Index.ofTree settings root
  let (verdicts, cycle) := Resolve.all settings d index
  let said := .started d.path settings.mode :: verdicts.flatMap Verdict.events
  match cycle with
  | some methods => ⟨said, .error (.cyclic (some d.path) methods)⟩
  | none =>
    let occurrences := Hint.occurrences parse settings d ++ verdicts.flatMap Verdict.occurrences
    ⟨said ++ Hint.events parse settings d ++
        [.finished d.path occurrences.length index.sites.length index.contexts.length],
      .ok occurrences⟩

/-- The scan of a text, given its tree. -/
def withTree (parse : Parser) (settings : Settings) (path text : String) (root : Node) : Report :=
  match root.fault? (some path) with
  | some fault => ⟨[], .error fault⟩
  | none => document parse settings (.ofText path text) root

/-- The scan of a text. -/
def text (parse : Parser) (settings : Settings) (path text : String) : Report :=
  withTree parse settings path text (parse (Text.encoded text))

/-- The scan of the bytes of a file. -/
def bytes (parse : Parser) (settings : Settings) (path : String) (source : Source) : Report :=
  withTree parse settings path (Text.decoded source) (parse source)

/-- The scan of a tree. Its text is taken from the tree if it is not given. -/
def tree (parse : Parser) (settings : Settings) (path : String) (tree : SyntaxTree)
    (text : Option String) : Report :=
  match tree.root.fault? (some path) with
  | some fault => ⟨[], .error fault⟩
  | none =>
    match text.or tree.text? with
    | some text => document parse settings (.ofText path text) tree.root
    | none => ⟨[], .error .textMissing⟩

end Scan

end LocaleKeys

import LocaleKeys.Fault
import LocaleKeys.Ast.Stack

/-!
# Defects of syntax trees

A tree of a malformed source marks the parts that are missing or could not be read. The first such
part, in document order, is what the fault names.
-/

namespace LocaleKeys.Ast.Node

/-- Does the node stand for a part that is missing or could not be read? -/
def isDefect (n : Node) : Bool :=
  n.tag.isError || n.tag.isMissing

/-- The first defect that a search finds. The nodes that are still to be looked at wait on a stack,
with the next one on top, which is its end. Nothing is looked for below a node that is not
marked. -/
def firstDefectOn? (stack : Array Node) : Option Node :=
  match _ : stack.back? with
  | none => none
  | some n =>
    if n.isDefect then some n
    else if n.tag.hasError then firstDefectOn? (stack.pop ++ n.children.reverse)
    else firstDefectOn? stack.pop
termination_by sizeAll stack.toList
decreasing_by
  all_goals
    rw [toList_of_back? ‹stack.back? = some n›]
    simp [sizeAll, sizeAll_append, sizeAll_reverse, size_eq]

/-- The first defect at a node or below it. -/
def firstDefect? (n : Node) : Option Node :=
  firstDefectOn? #[n]

/-- How a defect is told. -/
def defectReason : Option Node → String
  | some d =>
    if d.tag.isMissing then "syntax error, missing '" ++ d.kind.name ++ "'" else "syntax error"
  | none => "syntax error"

/-- The fault of a tree, if it has a defect. -/
def fault? (path : Option String) (root : Node) : Option Fault :=
  if root.tag.hasError then
    let defect := root.firstDefect?
    some (.malformed path (defect.map fun d => (d.line : Int)) (defectReason defect))
  else none

end LocaleKeys.Ast.Node

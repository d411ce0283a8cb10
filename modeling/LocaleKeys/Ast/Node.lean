import LocaleKeys.Ast.Kind
import LocaleKeys.Ast.Source

/-!
# Nodes of syntax trees

A node carries what a scan needs of it: its kind, the roles it plays for its parent, its text and
its place. `Node.ofSpan` makes a node from the part of a source that it spans.
-/

namespace LocaleKeys.Ast

/-- What a node is, apart from its children. -/
structure Tag where
  /-- What the node is. -/
  kind : Kind
  /-- What it is for its parent. -/
  roles : List Role := []
  /-- The offset of its first byte. -/
  start : Nat := 0
  /-- The line of its first byte, counted from one. -/
  line : Nat := 1
  /-- The column of its first byte, counted from one. -/
  column : Nat := 1
  /-- Its text. -/
  text : String := ""
  /-- Is it a node of the grammar, and not a mere token? -/
  named : Bool := true
  /-- Does it stand for a part that could not be read? -/
  isError : Bool := false
  /-- Does it stand for a part that is missing? -/
  isMissing : Bool := false
  /-- Is there a part inside it that is missing or could not be read? -/
  hasError : Bool := false
  deriving DecidableEq, Repr, Inhabited

/-- A node of a syntax tree. -/
inductive Node where
  /-- A node and its children, in order. -/
  | mk (tag : Tag) (children : List Node)
  deriving Repr, Inhabited

namespace Node

/-- What the node is. -/
def tag : Node → Tag
  | ⟨t, _⟩ => t

/-- The children of a node, tokens included. -/
def children : Node → List Node
  | ⟨_, cs⟩ => cs

/-- The kind of a node. -/
def kind (n : Node) : Kind := n.tag.kind

/-- The text of a node. -/
def text (n : Node) : String := n.tag.text

/-- The line of a node. -/
def line (n : Node) : Nat := n.tag.line

/-- The column of a node. -/
def column (n : Node) : Nat := n.tag.column

/-- Is it a node of the grammar, and not a mere token? -/
def isNamed (n : Node) : Bool := n.tag.named

/-- Does the node play a role for its parent? -/
def plays (role : Role) (n : Node) : Bool := n.tag.roles.contains role

/-- The children that are nodes of the grammar. -/
def named (n : Node) : List Node := n.children.filter isNamed

/-- The child that plays a role. -/
def child? (role : Role) (n : Node) : Option Node := n.children.find? (plays role)

/-- The node over a part of a source. -/
def ofSpan (source : Source) (kind : Kind) (roles : List Role) (start stop : Nat)
    (children : List Node) : Node :=
  let (line, column) := source.placeAt start
  ⟨{ kind, roles, start, line, column, text := source.textBetween start stop }, children⟩

/-- The same node with other marks: is it no mere token, does it stand for a part that could not be
read or is missing, and is there such a part inside it? -/
def marked (n : Node) (named isError isMissing hasError : Bool) : Node :=
  ⟨{ n.tag with named, isError, isMissing, hasError }, n.children⟩

/-- The same node with a role. -/
def withRole (role : Role) (n : Node) : Node :=
  ⟨{ n.tag with roles := role :: n.tag.roles }, n.children⟩

mutual

/-- A node and the nodes of the grammar below it, each before those below it. -/
def preorder : Node → List Node
  | ⟨t, cs⟩ => ⟨t, cs⟩ :: preorderAll cs

/-- The nodes of the grammar among some nodes and below them. -/
def preorderAll : List Node → List Node
  | [] => []
  | c :: cs => (if c.isNamed then c.preorder else []) ++ preorderAll cs

end

end Node

end LocaleKeys.Ast

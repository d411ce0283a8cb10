import LocaleKeys.Data.Value
import LocaleKeys.Ast.Node

/-!
# Syntax trees from data

A tree may be given as data: each node is the list of its kind, the offsets of its start and end, an
object that tells which child plays which role, the list of its children, and optionally a text
whose letters mark the node: `A` a mere token, `E` a part that could not be read, `M` a missing
part, `H` such a part inside.
-/

namespace LocaleKeys.Ast.Node

open Data

/-- The roles that data gives to the child with a number. -/
def rolesFor (fields : List (String × Value)) (number : Nat) : List Role :=
  fields.filterMap fun (name, value) =>
    match value with
    | .int n => if n = number then Role.ofName? name else none
    | _ => none

/-- Children with the roles that data gives them. -/
def withRoles (fields : List (String × Value)) (children : List Node) : List Node :=
  children.zipIdx.map fun (c, number) => (rolesFor fields number).foldr withRole c

/-- The letters that mark a node. -/
def marksOf : List Value → List Char
  | [.str marks] => marks.toList
  | _ => []

mutual

/-- The tree that data describes, over a source. -/
def ofValue? (source : Source) : Value → Option Node
  | .list (.str kind :: .int start :: .int stop :: .object fields :: .list children :: marks) =>
    (ofValues? source children).map fun cs =>
      let marks := marksOf marks
      (ofSpan source (Kind.ofName kind) [] start.toNat stop.toNat (withRoles fields cs)).marked
        (!marks.contains 'A') (marks.contains 'E') (marks.contains 'M') (marks.contains 'H')
  | _ => none

/-- The trees that data describes, over a source. -/
def ofValues? (source : Source) : List Value → Option (List Node)
  | [] => some []
  | v :: vs =>
    match ofValue? source v, ofValues? source vs with
    | some n, some ns => some (n :: ns)
    | _, _ => none

end

end LocaleKeys.Ast.Node

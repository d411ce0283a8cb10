import LocaleKeys.Literal

/-!
# Arguments of calls

The arguments of a call are positional ones and options. Options are written as pairs, or as a hash
literal that comes last after a positional argument.
-/

namespace LocaleKeys

open Ast

/-- The options of a call, each name once. -/
abbrev Options := List (String × OptionValue)

namespace Options

/-- The value of an option. -/
def get? (options : Options) (name : String) : Option OptionValue :=
  options.lookup name

/-- The options with one more, which takes the place of an earlier one of its name. -/
def insert (name : String) (value : OptionValue) : Options → Options
  | [] => [(name, value)]
  | (n, v) :: rest => if n = name then (n, value) :: rest else (n, v) :: insert name value rest

/-- The option that a pair gives. A key that is not known or a value that is absent gives none; a
key alone reads a variable. -/
def ofPair? (pair : Node) : Option (String × OptionValue) :=
  match (pair.child? .key).bind Node.plainText? with
  | none => none
  | some key =>
    match pair.child? .value with
    | none => some (key, .dynamic key)
    | some value => value.optionValue?.map fun v => (key, v)

/-- The options that pairs give. The last pair of a name wins. -/
def ofPairs (pairs : List Node) : Options :=
  (pairs.filterMap ofPair?).foldl (fun options (name, value) => options.insert name value) []

end Options

/-- The arguments of a call. -/
structure Arguments where
  /-- The positional arguments. -/
  positional : List Node
  /-- The options. -/
  options : Options

namespace Arguments

/-- Is an argument a hash literal that gives options? It comes last and a positional argument has
been seen. -/
def givesOptions (seen : Bool) (kind : Kind) (rest : List Node) : Bool :=
  kind = .hash && seen && rest.isEmpty

/-- Is an argument positional? -/
def isPositional (seen : Bool) (kind : Kind) (rest : List Node) : Bool :=
  match kind with
  | .pair | .hashSplatArgument | .blockArgument | .comment => false
  | _ => !givesOptions seen kind rest

/-- The positional ones among arguments. `seen` tells whether one came before. -/
def positionalOf (seen : Bool) : List Node → List Node
  | [] => []
  | a :: rest =>
    if isPositional seen a.kind rest then a :: positionalOf true rest else positionalOf seen rest

/-- The pairs that give options among arguments. `seen` tells whether a positional argument came
before. -/
def pairsOf (seen : Bool) : List Node → List Node
  | [] => []
  | a :: rest =>
    if a.kind = .pair then a :: pairsOf seen rest
    else if givesOptions seen a.kind rest then a.named.filter (·.kind = .pair)
    else pairsOf (seen || isPositional seen a.kind rest) rest

/-- The arguments that nodes give. -/
def ofNodes (nodes : List Node) : Arguments where
  positional := positionalOf false nodes
  options := Options.ofPairs (pairsOf false nodes)

/-- The arguments of a call. -/
def ofCall (call : Node) : Arguments :=
  ofNodes (((call.child? .arguments).map Node.named).getD [])

end Arguments

end LocaleKeys

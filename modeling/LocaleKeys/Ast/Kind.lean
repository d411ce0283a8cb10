/-!
# Kinds and roles of nodes

What a node of a Ruby syntax tree is, and what it is for its parent. Only the kinds that a scan
tells apart have a name of their own.
-/

namespace LocaleKeys.Ast

/-- What a node is. -/
inductive Kind where
  /-- A method call with arguments, a receiver or a block. -/
  | call
  /-- A name that is a local variable or a call without arguments. -/
  | identifier
  /-- A constant. -/
  | constant
  /-- A constant inside another one. -/
  | scopeResolution
  /-- A method definition. -/
  | method
  /-- A method definition on one object. -/
  | singletonMethod
  /-- A class definition. -/
  | classDef
  /-- A module definition. -/
  | moduleDef
  /-- The definition of an object's own class. -/
  | singletonClass
  /-- The superclass of a class definition. -/
  | superclass
  /-- The statements of a definition. -/
  | bodyStatement
  /-- The parameters of a method. -/
  | methodParameters
  /-- Parameters of any kind. -/
  | parameters
  /-- The parameters of a block. -/
  | blockParameters
  /-- The parameters of a lambda. -/
  | lambdaParameters
  /-- The variable that holds a rescued exception. -/
  | exceptionVariable
  /-- A comment. -/
  | comment
  /-- An assignment. -/
  | assignment
  /-- An assignment with an operator. -/
  | operatorAssignment
  /-- The left side of an assignment to several variables. -/
  | leftAssignmentList
  /-- A lambda. -/
  | lambda
  /-- A block in braces. -/
  | block
  /-- A block in words. -/
  | doBlock
  /-- A key with its value. -/
  | pair
  /-- A hash literal. -/
  | hash
  /-- A hash whose pairs become arguments. -/
  | hashSplatArgument
  /-- A block that is given as an argument. -/
  | blockArgument
  /-- The absent value. -/
  | nil
  /-- An integer literal. -/
  | integer
  /-- An array literal. -/
  | array
  /-- An array of bare strings. -/
  | stringArray
  /-- An array of bare symbols. -/
  | symbolArray
  /-- A string literal. -/
  | string
  /-- A symbol in quotes. -/
  | delimitedSymbol
  /-- A string of a string array. -/
  | bareString
  /-- A symbol of a symbol array. -/
  | bareSymbol
  /-- A symbol without quotes. -/
  | simpleSymbol
  /-- A symbol before the colon of a pair. -/
  | hashKeySymbol
  /-- An escape inside a string. -/
  | escapeSequence
  /-- An expression inside a string. -/
  | interpolation
  /-- Strings side by side. -/
  | chainedString
  /-- Any other kind. -/
  | other (name : String)
  deriving DecidableEq, Repr, Inhabited

namespace Kind

/-- The kinds that have a name of their own. -/
def named : List (String × Kind) :=
  [("call", .call), ("identifier", .identifier), ("constant", .constant),
    ("scope_resolution", .scopeResolution), ("method", .method),
    ("singleton_method", .singletonMethod), ("class", .classDef), ("module", .moduleDef),
    ("singleton_class", .singletonClass), ("superclass", .superclass),
    ("body_statement", .bodyStatement), ("method_parameters", .methodParameters),
    ("parameters", .parameters), ("block_parameters", .blockParameters),
    ("lambda_parameters", .lambdaParameters), ("exception_variable", .exceptionVariable),
    ("comment", .comment), ("assignment", .assignment),
    ("operator_assignment", .operatorAssignment), ("left_assignment_list", .leftAssignmentList),
    ("lambda", .lambda), ("block", .block), ("do_block", .doBlock), ("pair", .pair),
    ("hash", .hash), ("hash_splat_argument", .hashSplatArgument),
    ("block_argument", .blockArgument), ("nil", .nil), ("integer", .integer), ("array", .array),
    ("string_array", .stringArray), ("symbol_array", .symbolArray), ("string", .string),
    ("delimited_symbol", .delimitedSymbol), ("bare_string", .bareString),
    ("bare_symbol", .bareSymbol), ("simple_symbol", .simpleSymbol),
    ("hash_key_symbol", .hashKeySymbol), ("escape_sequence", .escapeSequence),
    ("interpolation", .interpolation), ("chained_string", .chainedString)]

/-- The kind with a given name. -/
def ofName (name : String) : Kind :=
  (named.lookup name).getD (.other name)

/-- The name of a kind. -/
def name : Kind → String
  | .other name => name
  | k => ((named.find? (·.2 = k)).map (·.1)).getD ""

/-- Is it a constant, alone or inside another one? -/
def isConstant : Kind → Bool
  | .constant | .scopeResolution => true
  | _ => false

/-- Does a node of this kind declare names without using them? -/
def isParameters : Kind → Bool
  | .methodParameters | .parameters | .blockParameters | .lambdaParameters
  | .exceptionVariable => true
  | _ => false

/-- Is it a block? -/
def isBlock : Kind → Bool
  | .block | .doBlock => true
  | _ => false

end Kind

/-- What a node is for its parent. -/
inductive Role where
  /-- The name of a definition, or of a constant. -/
  | name
  /-- The body of a definition. -/
  | body
  /-- The superclass of a class. -/
  | superclass
  /-- The parameters of a method. -/
  | parameters
  /-- The object of a definition on one object. -/
  | object
  /-- The value of a pair, or the object of a singleton class. -/
  | value
  /-- The method of a call. -/
  | method
  /-- The arguments of a call. -/
  | arguments
  /-- The receiver of a call. -/
  | receiver
  /-- The block of a call. -/
  | block
  /-- The left side of an assignment. -/
  | left
  /-- The right side of an assignment. -/
  | right
  /-- The key of a pair. -/
  | key
  /-- The outer constant of a constant. -/
  | scope
  deriving DecidableEq, Repr, Inhabited

/-- The role with a given name. -/
def Role.ofName? (name : String) : Option Role :=
  [("name", Role.name), ("body", .body), ("superclass", .superclass), ("parameters", .parameters),
    ("object", .object), ("value", .value), ("method", .method), ("arguments", .arguments),
    ("receiver", .receiver), ("block", .block), ("left", .left), ("right", .right), ("key", .key),
    ("scope", .scope)].lookup name

end LocaleKeys.Ast

import LocaleKeys.Text.Numeral
import LocaleKeys.Ast.Node

/-!
# Literals

What can be known of an expression without running it: the text of a string or a symbol, and the
value of an option of a call.
-/

namespace LocaleKeys

open Ast

/-- The text of a string or symbol. -/
structure StringLit where
  /-- The text, with interpolated expressions as they stand in the source. -/
  text : String
  /-- Does it hold an interpolated expression? -/
  interpolated : Bool
  deriving DecidableEq, Repr, Inhabited

/-- What is known of the value of an option. -/
inductive OptionValue where
  /-- A string or symbol. -/
  | literal (text : String)
  /-- An array of strings and symbols. -/
  | list (texts : List String)
  /-- An integer. -/
  | integer (n : Int)
  /-- An expression that has to be run; its source is kept. -/
  | dynamic (source : String)
  deriving DecidableEq, Repr, Inhabited

/-- The names that a value lists, if they are known. -/
def OptionValue.names? : OptionValue → Option (List String)
  | .literal s => some [s]
  | .list ss => some ss
  | _ => none

namespace StringLit

/-- What an escape of two characters stands for. Any other text stands for itself. -/
def unescape (s : String) : String :=
  match s.toList with
  | ['\\', 'n'] => "\n"
  | ['\\', 't'] => "\t"
  | ['\\', 's'] => " "
  | ['\\', '0'] => "\x00"
  | ['\\', c] => String.ofList [c]
  | _ => s

/-- The text of a part of a string. -/
def partText (n : Node) : String :=
  if n.kind = .escapeSequence then unescape n.text else n.text

/-- The text of a string from its parts. -/
def ofParts (parts : List Node) : StringLit where
  text := String.join (parts.map partText)
  interpolated := parts.any (·.kind = .interpolation)

/-- Two texts side by side. -/
def append (a b : StringLit) : StringLit :=
  ⟨a.text ++ b.text, a.interpolated || b.interpolated⟩

end StringLit

namespace Ast.Node

mutual

/-- The text of a string or symbol, or of strings side by side. -/
def stringLit? : Node → Option StringLit
  | ⟨t, cs⟩ =>
    match t.kind with
    | .simpleSymbol => some ⟨String.ofList (t.text.toList.drop 1), false⟩
    | .hashKeySymbol => some ⟨t.text, false⟩
    | .string | .delimitedSymbol => some (StringLit.ofParts (cs.filter isNamed))
    | .bareString | .bareSymbol =>
      let parts := cs.filter isNamed
      if parts.isEmpty then some ⟨t.text, false⟩ else some (StringLit.ofParts parts)
    | .chainedString => stringLits? cs
    | _ => none

/-- The text of strings side by side. -/
def stringLits? : List Node → Option StringLit
  | [] => some ⟨"", false⟩
  | c :: cs =>
    if c.isNamed then
      match c.stringLit?, stringLits? cs with
      | some a, some b => some (a.append b)
      | _, _ => none
    else stringLits? cs

end

/-- The text of a string or symbol without interpolated expressions. -/
def plainText? (n : Node) : Option String :=
  match n.stringLit? with
  | some s => if s.interpolated then none else some s.text
  | none => none

/-- The texts of nodes that are all strings or symbols without interpolated expressions. -/
def plainTexts? : List Node → Option (List String)
  | [] => some []
  | n :: ns =>
    match n.plainText?, plainTexts? ns with
    | some s, some ss => some (s :: ss)
    | _, _ => none

/-- What is known of the value that a node gives an option. The absent value gives none. -/
def optionValue? (n : Node) : Option OptionValue :=
  match n.kind with
  | .nil => none
  | .integer =>
    match Text.readInteger n.text with
    | some k => some (.integer k)
    | none => some (.dynamic n.text)
  | .array | .stringArray | .symbolArray =>
    match plainTexts? n.named with
    | some ss => some (.list ss)
    | none => some (.dynamic n.text)
  | _ =>
    match n.plainText? with
    | some s => some (.literal s)
    | none => some (.dynamic n.text)

mutual

/-- The names of a constant, from the outermost one in. -/
def constantPath : Node → List String
  | ⟨t, cs⟩ =>
    match t.kind with
    | .scopeResolution => constantPathOf .scope cs ++ constantPathOf .name cs
    | _ => [t.text]

/-- The names of the constant that plays a role among some nodes. -/
def constantPathOf (role : Role) : List Node → List String
  | [] => []
  | c :: cs => if c.plays role then c.constantPath else constantPathOf role cs

end

end Ast.Node

end LocaleKeys

import LocaleKeys.Text.Quoted

/-!
# Loose values

Values whose shape is not known beforehand: settings as they are given, and the contents of data
files. The entries of an object keep their order.
-/

namespace LocaleKeys.Data

/-- A value of any shape. -/
inductive Value where
  /-- No value. -/
  | null
  /-- A truth value. -/
  | bool (b : Bool)
  /-- A whole number. -/
  | int (n : Int)
  /-- A text. -/
  | str (s : String)
  /-- A sequence. -/
  | list (items : List Value)
  /-- Named values, in order. -/
  | object (entries : List (String × Value))
  deriving Repr, Inhabited

namespace Value

mutual

/-- A value as messages show it: texts in quotes, sequences in brackets, objects in braces. -/
def display : Value → String
  | .null => "None"
  | .bool true => "True"
  | .bool false => "False"
  | .int n => toString n
  | .str s => Text.quoted s
  | .list items => "[" ++ String.intercalate ", " (displayAll items) ++ "]"
  | .object entries => "\x7b" ++ String.intercalate ", " (displayEntries entries) ++ "\x7d"

/-- The items of a sequence, each as messages show it. -/
def displayAll : List Value → List String
  | [] => []
  | v :: rest => v.display :: displayAll rest

/-- The entries of an object, each as messages show it. -/
def displayEntries : List (String × Value) → List String
  | [] => []
  | (name, v) :: rest => (Text.quoted name ++ ": " ++ v.display) :: displayEntries rest

end

/-- A value as a plain text: a text is itself, all else is displayed. -/
def text : Value → String
  | .str s => s
  | v => v.display

/-- The text that a value is, if it is one. -/
def str? : Value → Option String
  | .str s => some s
  | _ => none

/-- Does a value count as true? What is absent, zero or empty does not. -/
def isTrue : Value → Bool
  | .null => false
  | .bool b => b
  | .int n => n ≠ 0
  | .str s => s ≠ ""
  | .list items => !items.isEmpty
  | .object entries => !entries.isEmpty

/-- The word that messages have for the type of a value. -/
def typeName : Value → String
  | .null => "NoneType"
  | .bool _ => "bool"
  | .int _ => "int"
  | .str _ => "str"
  | .list _ => "list"
  | .object _ => "dict"

/-- The value of a named entry, the last one if there are several. -/
def get? (name : String) : Value → Option Value
  | .object entries => (entries.reverse.find? (·.1 == name)).map (·.2)
  | _ => none

end Value

end LocaleKeys.Data

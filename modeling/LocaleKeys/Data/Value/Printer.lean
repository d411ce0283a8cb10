import LocaleKeys.Data.Value

/-!
# Writing values

Values written as JSON, either on one line or with one item on each line.
-/

namespace LocaleKeys.Data.Value

/-- Is a character written by its number? Those that show nothing or end a line are. -/
def isNumbered (c : Char) : Bool :=
  c.toNat < 0x20 || (0x7f ≤ c.toNat && c.toNat ≤ 0x9f) || c.toNat == 0x2028 || c.toNat == 0x2029

/-- A character as it stands in a written text. -/
def writtenChar (c : Char) : List Char :=
  if c = '"' ∨ c = '\\' then ['\\', c]
  else if c = '\n' then ['\\', 'n']
  else if c = '\r' then ['\\', 'r']
  else if c = '\t' then ['\\', 't']
  else if isNumbered c then '\\' :: 'u' :: Text.hexDigits 4 c.toNat
  else [c]

/-- A written text. -/
def writtenText (s : String) : String :=
  String.ofList ('"' :: s.toList.flatMap writtenChar ++ ['"'])

mutual

/-- A value on one line. -/
def compact : Value → String
  | .null => "null"
  | .bool b => if b then "true" else "false"
  | .int n => toString n
  | .str s => writtenText s
  | .list items => "[" ++ String.intercalate "," (compactAll items) ++ "]"
  | .object entries => "\x7b" ++ String.intercalate "," (compactEntries entries) ++ "\x7d"

/-- The items of a sequence, each on one line. -/
def compactAll : List Value → List String
  | [] => []
  | v :: rest => v.compact :: compactAll rest

/-- The entries of an object, each on one line. -/
def compactEntries : List (String × Value) → List String
  | [] => []
  | (name, v) :: rest => (writtenText name ++ ":" ++ v.compact) :: compactEntries rest

end

/-- Items between an opening and a closing mark, each on a line of its own. -/
def block (opening closing margin : String) : List String → String
  | [] => opening ++ closing
  | items =>
    let body := String.intercalate ",\n" (items.map fun s => margin ++ "  " ++ s)
    opening ++ "\n" ++ body ++ "\n" ++ margin ++ closing

mutual

/-- A value with one item on each line, below a margin. -/
def indented (margin : String) : Value → String
  | .list items => block "[" "]" margin (indentedAll (margin ++ "  ") items)
  | .object entries => block "\x7b" "\x7d" margin (indentedEntries (margin ++ "  ") entries)
  | .null => compact .null
  | .bool b => compact (.bool b)
  | .int n => compact (.int n)
  | .str s => compact (.str s)

/-- The items of a sequence, each with one item on each line. -/
def indentedAll (margin : String) : List Value → List String
  | [] => []
  | v :: rest => v.indented margin :: indentedAll margin rest

/-- The entries of an object, each with one item on each line. -/
def indentedEntries (margin : String) : List (String × Value) → List String
  | [] => []
  | (name, v) :: rest =>
    (writtenText name ++ ": " ++ v.indented margin) :: indentedEntries margin rest

end

end LocaleKeys.Data.Value

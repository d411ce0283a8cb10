import LocaleKeys.Data.Value
import LocaleKeys.Text.Blank
import LocaleKeys.Text.Case

/-!
# Modes and faulty settings

A scan either applies the conventions of controllers and records or takes plain keys only. Settings
that cannot be used are faults, with a message for each.
-/

namespace LocaleKeys

open Data

/-- Which rules a scan applies. -/
inductive Mode where
  /-- Relative keys and record helpers are resolved by convention. -/
  | conventions
  /-- Only keys that are complete by themselves count. -/
  | plain
  deriving DecidableEq, Repr, Inhabited

/-- Why settings cannot be used. -/
inductive SettingsFault where
  /-- A field has a value that it cannot take. -/
  | invalid (field : String) (value : Value) (reason : String)
  /-- A field that lists names has a value that lists nothing. -/
  | notSequence (value : Value)
  /-- There is no such field. -/
  | unknown (field : String)
  deriving Repr, Inhabited

namespace SettingsFault

/-- The message of a fault. -/
def message : SettingsFault → String
  | .invalid field value reason =>
    "Invalid value for '" ++ field ++ "': " ++ value.display ++ " (" ++ reason ++ ")"
  | .notSequence value => "'" ++ value.typeName ++ "' object is not iterable"
  | .unknown field =>
    "ScanConfig.__init__() got an unexpected keyword argument '" ++ field ++ "'"

end SettingsFault

namespace Mode

/-- The name of a mode. -/
def name : Mode → String
  | .conventions => "convention-aware"
  | .plain => "plain"

/-- All names that a mode may be given by, in alphabetical order. -/
def aliases : List (String × Mode) :=
  [("convention", .conventions), ("convention-aware", .conventions), ("plain", .plain),
    ("rails", .conventions), ("ruby", .plain)]

/-- The mode with a given name. Case and surrounding blanks do not matter. -/
def ofName? (s : String) : Option Mode :=
  aliases.lookup (Text.lowered (Text.trimmed s))

/-- What a value that is no mode is told. -/
def expected : String :=
  "expected one of " ++ (Value.list (aliases.map fun a => .str a.1)).display

/-- The mode that a value gives. -/
def ofValue (v : Value) : Except SettingsFault Mode :=
  match ofName? v.text with
  | some mode => .ok mode
  | none => .error (.invalid "mode" v expected)

end Mode

end LocaleKeys

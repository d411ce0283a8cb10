import LocaleKeys.Configuration
import LocaleKeys.Text.Lines

/-!
# Environments

Settings may come from environment variables. What is given explicitly wins over them.
-/

namespace LocaleKeys

open Data

/-- The variables that are set. -/
abbrev Environment := List (String × String)

/-- Why a variable cannot be set. -/
inductive VariableFault where
  /-- Its name or its value holds the null character. -/
  | nullCharacter
  /-- Its name holds an equals sign. -/
  | illegalName
  /-- Its name is empty. -/
  | emptyName
  deriving DecidableEq, Repr, Inhabited

/-- The message of a fault. -/
def VariableFault.message : VariableFault → String
  | .nullCharacter => "embedded null byte"
  | .illegalName => "illegal environment variable name"
  | .emptyName => "[Errno 22] Invalid argument"

namespace Environment

/-- The value of a variable. -/
def get? (env : Environment) (name : String) : Option String :=
  env.lookup name

/-- The environment without a variable. -/
def unset (env : Environment) (name : String) : Environment :=
  env.filter (·.1 ≠ name)

/-- The environment with a variable set. -/
def set (env : Environment) (name value : String) : Environment :=
  (name, value) :: env.unset name

/-- What is wrong with a variable that is to be set. -/
def variableFault? (name value : String) : Option VariableFault :=
  if name.toList.contains '\x00' || value.toList.contains '\x00' then some .nullCharacter
  else if name.toList.contains '=' then some .illegalName
  else if name = "" then some .emptyName
  else none

/-- The environment with a variable set, if it can be. -/
def set? (env : Environment) (name value : String) : Except VariableFault Environment :=
  match variableFault? name value with
  | some fault => .error fault
  | none => .ok (env.set name value)

/-- The mode that the environment gives. -/
def mode (env : Environment) : Except SettingsFault Mode :=
  match env.get? "I18N_SCAN_MODE" with
  | some s => Mode.ofValue (.str s)
  | none => .ok .conventions

/-- The directories that the environment gives, which commas separate. -/
def roots (env : Environment) : List String :=
  ((Text.cut ',' ((env.get? "I18N_SCAN_RELATIVE_ROOTS").getD "")).map Text.trimmed).filter (· ≠ "")

/-- The marker of comments that the environment gives. -/
def marker (env : Environment) : String :=
  (env.get? "I18N_SCAN_MAGIC_MARKER").getD "i18n-tasks-use"

/-- Does the environment ask for a strict scan? -/
def strict (env : Environment) : Bool :=
  ["1", "true", "yes", "on"].contains
    (Text.lowered (Text.trimmed ((env.get? "I18N_SCAN_STRICT").getD "")))

/-- The level of messages that the environment asks for. -/
def logLevel (env : Environment) : String :=
  (env.get? "I18N_SCAN_LOG_LEVEL").getD "WARNING"

/-- The configuration that an environment and explicit values give. An explicit value that is absent
does not count. A mode in the environment has to be a mode even where an explicit one replaces
it. -/
def configuration (env : Environment) (explicit : List (String × Value)) :
    Except SettingsFault Configuration := do
  let mode ← env.mode
  Configuration.ofEntries
    ([("mode", .str mode.name), ("relative_roots", .list (env.roots.map .str)),
      ("magic_comment_marker", .str env.marker), ("strict", .bool env.strict)] ++
      explicit.filter fun e => !(e.2 matches .null))

end Environment

end LocaleKeys

import LocaleKeys.Settings

/-!
# Configurations

A configuration is what settings are given by: named values of any shape. Only the mode is looked at
when it is read, and whether lists are given where lists are due; all other values are kept as they
are. `Configuration.settings` is what a scan makes of them.
-/

namespace LocaleKeys

open Data

/-- Named values that give settings. -/
structure Configuration where
  /-- The rules that apply. -/
  mode : Mode
  /-- The directories in which controllers live. -/
  roots : List Value
  /-- The methods that look a key up when called without a receiver. -/
  lookupMethods : List Value
  /-- The methods that look a key up when called on a constant. -/
  qualifiedMethods : List Value
  /-- The methods that register a callback. -/
  callbackMacros : List Value
  /-- The methods that look up the name of a record's attribute. -/
  attributeHelpers : List Value
  /-- The method that gives the name of a record. -/
  modelNameMethod : Value
  /-- The method that looks such a name up. -/
  humanizeMethod : Value
  /-- The word that marks a comment which declares uses. -/
  marker : Value
  /-- The suffix of a controller's name. -/
  controllerSuffix : Value
  /-- Are interpolated keys dropped? -/
  strict : Value
  deriving Repr, Inhabited

namespace Configuration

/-- The configuration that gives the standard settings. -/
def standard : Configuration :=
  let s : Settings := {}
  { mode := s.mode
    roots := s.roots.map .str
    lookupMethods := s.lookupMethods.map .str
    qualifiedMethods := s.qualifiedMethods.map .str
    callbackMacros := s.callbackMacros.map .str
    attributeHelpers := s.attributeHelpers.map .str
    modelNameMethod := .str "model_name"
    humanizeMethod := .str "human"
    marker := .str s.marker
    controllerSuffix := .str s.controllerSuffix
    strict := .bool s.strict }

/-- The names of all fields. -/
def fieldNames : List String :=
  ["mode", "relative_roots", "translation_methods", "namespaced_translation_methods",
    "callback_macros", "attribute_helper_methods", "model_name_method", "humanize_method",
    "magic_comment_marker", "controller_suffix", "strict"]

/-- The value of a field, the last one if it is given several times. -/
def field? (entries : List (String × Value)) (name : String) : Option Value :=
  (entries.reverse.find? (·.1 == name)).map (·.2)

/-- The items that a value lists: those of a sequence, or the names of an object's entries. A text
is not taken for a list. -/
def itemsOf (field : String) : Value → Except SettingsFault (List Value)
  | .list items => .ok items
  | .object entries => .ok (entries.map fun e => .str e.1)
  | .str s => .error (.invalid field (.str s) "expected a sequence of strings")
  | v => .error (.notSequence v)

/-- A field that holds a list. -/
def listField (entries : List (String × Value)) (name : String) (standard : List Value) :
    Except SettingsFault (List Value) :=
  match field? entries name with
  | some v => itemsOf name v
  | none => .ok standard

/-- The field that gives the mode. -/
def modeField (entries : List (String × Value)) (standard : Mode) : Except SettingsFault Mode :=
  match field? entries "mode" with
  | some v => Mode.ofValue v
  | none => .ok standard

/-- The first name that is no field. -/
def unknown? (entries : List (String × Value)) : Option String :=
  (entries.map (·.1)).find? (!fieldNames.contains ·)

/-- The configuration that the values of fields give. The mode is read first, then the fields that
hold lists, in their order. -/
def ofFields (entries : List (String × Value)) (standard : Configuration) :
    Except SettingsFault Configuration := do
  let mode ← modeField entries standard.mode
  let roots ← listField entries "relative_roots" standard.roots
  let lookupMethods ← listField entries "translation_methods" standard.lookupMethods
  let qualifiedMethods ←
    listField entries "namespaced_translation_methods" standard.qualifiedMethods
  let callbackMacros ← listField entries "callback_macros" standard.callbackMacros
  let attributeHelpers ← listField entries "attribute_helper_methods" standard.attributeHelpers
  return {
    mode, roots, lookupMethods, qualifiedMethods, callbackMacros, attributeHelpers
    modelNameMethod := (field? entries "model_name_method").getD standard.modelNameMethod
    humanizeMethod := (field? entries "humanize_method").getD standard.humanizeMethod
    marker := (field? entries "magic_comment_marker").getD standard.marker
    controllerSuffix := (field? entries "controller_suffix").getD standard.controllerSuffix
    strict := (field? entries "strict").getD standard.strict }

/-- The configuration that named values give. A name that is no field is reported before all
else. -/
def ofEntries (entries : List (String × Value)) : Except SettingsFault Configuration :=
  match unknown? entries with
  | some name => .error (.unknown name)
  | none => ofFields entries standard

/-- The same configuration in the mode that a value gives. -/
def withMode (c : Configuration) (v : Value) : Except SettingsFault Configuration :=
  (Mode.ofValue v).map fun mode => { c with mode }

/-- The settings that a configuration gives. A method is never called by what is no text, so of the
methods only the texts count. Directories are taken as they are displayed. A marker or a suffix that
is no text stands for an empty one; `Configuration.fault?` tells where such a value stops a scan. -/
def settings (c : Configuration) : Settings where
  mode := c.mode
  roots := c.roots.map Value.text
  lookupMethods := c.lookupMethods.filterMap Value.str?
  qualifiedMethods := c.qualifiedMethods.filterMap Value.str?
  callbackMacros := c.callbackMacros.filterMap Value.str?
  attributeHelpers := c.attributeHelpers.filterMap Value.str?
  modelNameMethods := c.modelNameMethod.str?.toList
  humanizeMethods := c.humanizeMethod.str?.toList
  marker := c.marker.str?.getD ""
  controllerSuffix := c.controllerSuffix.str?.getD ""
  strict := c.strict.isTrue

end Configuration

end LocaleKeys

import LocaleKeys.Mode

/-!
# Settings

What a scan is told: its mode, the names of the methods it looks for, the marker of comments that
declare uses, and how strict it is.
-/

namespace LocaleKeys

/-- What a scan is told. -/
structure Settings where
  /-- The rules that apply. -/
  mode : Mode := .conventions
  /-- The directories in which controllers live; none means everywhere. -/
  roots : List String := []
  /-- The methods that look a key up when called without a receiver. -/
  lookupMethods : List String := ["t", "translate"]
  /-- The methods that look a key up when called on a constant, with that constant. -/
  qualifiedMethods : List String := ["I18n.t", "I18n.translate"]
  /-- The methods that register a callback in a class body. -/
  callbackMacros : List String :=
    ["before_action", "after_action", "around_action", "prepend_before_action",
      "prepend_after_action", "prepend_around_action", "append_before_action",
      "append_after_action", "append_around_action"]
  /-- The methods that look up the name of a record's attribute. -/
  attributeHelpers : List String := ["human_attribute_name"]
  /-- The methods that give the name of a record. -/
  modelNameMethods : List String := ["model_name"]
  /-- The methods that look such a name up. -/
  humanizeMethods : List String := ["human"]
  /-- The word that marks a comment which declares uses. -/
  marker : String := "i18n-tasks-use"
  /-- The suffix of a controller's name, which its key segment lacks. -/
  controllerSuffix : String := "Controller"
  /-- Are interpolated keys dropped? -/
  strict : Bool := false
  deriving DecidableEq, Repr, Inhabited

end LocaleKeys

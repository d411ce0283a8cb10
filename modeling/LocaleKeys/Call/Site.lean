import LocaleKeys.Call.Arguments
import LocaleKeys.Name
import LocaleKeys.Settings

/-!
# Call sites

Calls that use a key: lookups such as `t('key')` and `I18n.t('key')`, and record helpers such as
`Event.human_attribute_name(:title)` and `Event.model_name.human(count: 2)`.
-/

namespace LocaleKeys

open Ast

/-- How a lookup is called. -/
inductive Form where
  /-- Without a receiver. -/
  | short
  /-- On a constant. -/
  | qualified
  deriving DecidableEq, Repr, Inhabited

/-- The name of a form. -/
def Form.name : Form → String
  | .short => "short"
  | .qualified => "namespaced"

/-- A lookup of a key. -/
structure Lookup where
  /-- How it is called. -/
  form : Form
  /-- The key, if it is a literal. -/
  key : Option StringLit
  /-- The options. -/
  options : Options
  /-- The line of the call. -/
  line : Nat
  /-- The column of the call. -/
  column : Nat
  deriving DecidableEq, Repr, Inhabited

/-- What a record helper names. -/
inductive HelperKind where
  /-- An attribute of a record. -/
  | attributeName
  /-- A record itself. -/
  | modelName
  deriving DecidableEq, Repr, Inhabited

/-- The name of a helper's kind. -/
def HelperKind.name : HelperKind → String
  | .attributeName => "attribute"
  | .modelName => "model"

/-- A call of a record helper. -/
structure Helper where
  /-- What it names. -/
  kind : HelperKind
  /-- The key segment of the record. -/
  model : String
  /-- The attribute, or the count. -/
  argument : Option OptionValue
  /-- The line of the call. -/
  line : Nat
  /-- The column of the call. -/
  column : Nat
  deriving DecidableEq, Repr, Inhabited

/-- A call that uses a key. -/
inductive Site where
  /-- A lookup. -/
  | lookup (l : Lookup)
  /-- A record helper. -/
  | helper (h : Helper)
  deriving DecidableEq, Repr, Inhabited

/-- The literal text of the option `default`. -/
def Options.default? (options : Options) : Option String :=
  match options.get? "default" with
  | some (.literal s) => some s
  | _ => none

namespace Lookup

/-- The form of a call, if it is a lookup. -/
def formOf? (settings : Settings) (call : Node) : Option Form :=
  match call.child? .method with
  | none => none
  | some method =>
    match call.child? .receiver with
    | none => if settings.lookupMethods.contains method.text then some .short else none
    | some receiver =>
      let name := String.intercalate "::" receiver.constantPath ++ "." ++ method.text
      if receiver.kind.isConstant && settings.qualifiedMethods.contains name then some .qualified
      else none

/-- The lookup that a call is. -/
def ofCall? (settings : Settings) (call : Node) : Option Lookup :=
  (formOf? settings call).map fun form =>
    let arguments := Arguments.ofCall call
    { form
      key := arguments.positional.head?.bind Node.stringLit?
      options := arguments.options
      line := call.line
      column := call.column }

end Lookup

namespace Helper

/-- The key segment of a record, from the constant that names it. -/
def modelOf (constant : Node) : String :=
  Name.underscore (constant.constantPath.getLastD "")

/-- The record whose name a call gives: the constant on which a method such as `model_name` is
called. -/
def namedModel? (settings : Settings) (receiver : Node) : Option Node :=
  if receiver.kind = .call && (receiver.child? .arguments).isNone &&
      (receiver.child? .method).any (settings.modelNameMethods.contains ·.text) then
    (receiver.child? .receiver).filter (·.kind.isConstant)
  else none

/-- The record helper that a call is. -/
def ofCall? (settings : Settings) (call : Node) : Option Helper :=
  match call.child? .method, call.child? .receiver with
  | some method, some receiver =>
    let arguments := Arguments.ofCall call
    if settings.attributeHelpers.contains method.text && receiver.kind.isConstant then
      some {
        kind := .attributeName
        model := modelOf receiver
        argument := arguments.positional.head?.bind Node.optionValue?
        line := call.line
        column := call.column }
    else if settings.humanizeMethods.contains method.text then
      (namedModel? settings receiver).map fun model =>
        { kind := .modelName
          model := modelOf model
          argument := arguments.options.get? "count"
          line := call.line
          column := call.column }
    else none
  | _, _ => none

end Helper

/-- The sites that a call is: a lookup, a record helper, both or neither. -/
def Site.ofCall (settings : Settings) (call : Node) : List Site :=
  ((Lookup.ofCall? settings call).map Site.lookup).toList ++
    ((Helper.ofCall? settings call).map Site.helper).toList

end LocaleKeys

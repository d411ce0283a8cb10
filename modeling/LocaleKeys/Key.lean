import LocaleKeys.Call.Site

/-!
# Keys

A key in full is a sequence of segments with dots between them. A lookup may give its first segments
as a scope.
-/

namespace LocaleKeys.Key

/-- Segments with dots between them. -/
def join (segments : List String) : String :=
  String.ofList (List.intercalate ['.'] (segments.map String.toList))

/-- A key without the dots at its start. -/
def stripDots (key : String) : String :=
  String.ofList (key.toList.dropWhile (· = '.'))

/-- Does a key begin with a dot, so that the place of the lookup completes it? -/
def isRelative (key : String) : Bool :=
  key.toList.head? = some '.'

/-- Does a key consist of dots? -/
def isDots (key : String) : Bool :=
  key.toList.all (· = '.')

/-- The key in full that scope and key give: the segments that are not empty, without dots at the
start. -/
def inScope (scope : List String) (key : String) : String :=
  stripDots (join ((scope ++ [key]).filter (· ≠ "")))

/-- The segments that a scope gives, if they are known. -/
def scopeSegments? : Option OptionValue → Option (List String)
  | none => some []
  | some (.literal s) => some [s]
  | some (.list ss) => some ss
  | some _ => none

/-- The key in full that a key and options give, if the scope is known. -/
def absolute? (key : String) (options : Options) : Option String :=
  (scopeSegments? (options.get? "scope")).map fun scope => inScope scope key

/-- The key of a record's attribute. -/
def ofAttribute (model name : String) : String :=
  join ["activerecord", "attributes", model, name]

/-- The form of a record's name for a count: one for no count or a count of one. -/
def pluralForm : Option OptionValue → String
  | none => "one"
  | some (.integer n) => if n = 1 then "one" else "other"
  | some _ => "other"

/-- The key of a record's name for a count. -/
def ofModel (model : String) (count : Option OptionValue) : String :=
  join ["activerecord", "models", model, pluralForm count]

end LocaleKeys.Key

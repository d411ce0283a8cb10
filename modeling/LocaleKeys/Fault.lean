import LocaleKeys.Text.Quoted

/-!
# Faults of a scan

What stops the scan of one file. Keys that cannot be resolved are no faults: they are dropped, and
an event says so.
-/

namespace LocaleKeys

/-- What a scan needs a text for. -/
inductive TextNeed where
  /-- For the end of a controller's name. -/
  | suffix
  /-- For the marker of comments. -/
  | marker
  deriving DecidableEq, Repr, Inhabited

/-- What stops a scan. -/
inductive Fault where
  /-- The scan failed for a reason given in words. -/
  | failed (path : Option String) (reason : String)
  /-- The source is malformed, at a line if one is known. -/
  | malformed (path : Option String) (line : Option Int) (reason : String)
  /-- Methods of one class call each other in a cycle. -/
  | cyclic (path : Option String) (methods : List String)
  /-- A tree came without its text. -/
  | textMissing
  /-- There is no such file. -/
  | notFound (path : String)
  /-- Something of another type stands where a text is needed. -/
  | notText (need : TextNeed) (typeName : String)
  deriving DecidableEq, Repr, Inhabited

namespace Fault

/-- Is it a fault of the scan itself, unlike one of what was passed to it or of the file system? -/
def isScanFault : Fault → Bool
  | .failed .. | .malformed .. | .cyclic .. => true
  | .textMissing | .notFound .. | .notText .. => false

/-- A reason with the path in front, where there is one. -/
def located (path : Option String) (reason : String) : String :=
  match path with
  | none | some "" => reason
  | some p => p ++ ": " ++ reason

/-- The place of a malformed source: its path, or a stand-in, and the line. -/
def place (path : Option String) (line : Option Int) : String :=
  let file := match path with
    | none | some "" => "<source>"
    | some p => p
  match line with
  | some n => file ++ ":" ++ toString n
  | none => file

/-- The message of a fault. -/
def message : Fault → String
  | .failed path reason => located path reason
  | .malformed path line reason => place path line ++ ": " ++ reason
  | .cyclic path methods =>
    located path ("Cyclic call detected: " ++ String.intercalate " -> " methods)
  | .textMissing => "tree carries no source text; pass text= explicitly"
  | .notFound path => "[Errno 2] No such file or directory: " ++ Text.quoted path
  | .notText .suffix typeName =>
    "endswith first arg must be str or a tuple of str, not " ++ typeName
  | .notText .marker typeName =>
    "decoding to str: need a bytes-like object, " ++ typeName ++ " found"

end Fault

end LocaleKeys

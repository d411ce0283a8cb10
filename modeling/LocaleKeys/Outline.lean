import LocaleKeys.Call.Site

/-!
# Outlines

The outline of a file is what matters of it for resolving keys, in document order and nested as in
the file: namespaces, the methods and callbacks that own code, calls without a receiver, and call
sites.
-/

namespace LocaleKeys

/-- Who may call a method. -/
inductive Visibility where
  /-- Everyone. -/
  | pub
  /-- Only the object itself. -/
  | priv
  /-- Only objects of the same class. -/
  | prot
  deriving DecidableEq, Repr, Inhabited

namespace Visibility

/-- The name of a visibility. -/
def name : Visibility → String
  | .pub => "public"
  | .priv => "private"
  | .prot => "protected"

/-- The visibility with a given name. -/
def ofName? (s : String) : Option Visibility :=
  if s = "public" then some .pub
  else if s = "private" then some .priv
  else if s = "protected" then some .prot
  else none

end Visibility

/-- The definition of a method. -/
structure MethodDef where
  /-- Its name. -/
  name : String
  /-- Who may call it. -/
  visibility : Visibility
  /-- The line of the definition. -/
  line : Nat
  /-- The offset of the definition, which tells it apart from others of its name. -/
  start : Nat
  deriving DecidableEq, Repr, Inhabited

/-- The registration of a callback in the body of a class. -/
structure Registration where
  /-- The name of the method that registers. -/
  registrar : String
  /-- The line of the registration. -/
  line : Nat
  /-- The methods that are called back. -/
  methods : List String
  /-- Is there code in the registration itself? -/
  inline : Bool
  /-- The actions it is limited to. -/
  only : Option OptionValue
  /-- The actions it leaves out. -/
  except : Option OptionValue
  deriving DecidableEq, Repr, Inhabited

/-- What opens a namespace. -/
inductive SpaceKind where
  /-- The file itself. -/
  | file
  /-- A class. -/
  | classSpace
  /-- A module. -/
  | moduleSpace
  deriving DecidableEq, Repr, Inhabited

/-- The name of what opens a namespace. -/
def SpaceKind.name : SpaceKind → String
  | .file => "root"
  | .classSpace => "class"
  | .moduleSpace => "module"

/-- A namespace. -/
structure Space where
  /-- What opens it. -/
  kind : SpaceKind
  /-- Its constants. -/
  constants : List String
  /-- The key segments that belong to them. -/
  segments : List String
  /-- The line where it is opened. -/
  line : Nat
  deriving DecidableEq, Repr, Inhabited

namespace Space

/-- The namespace of a file. -/
def root : Space := ⟨.file, [], [], 0⟩

/-- A namespace inside another one. -/
def within (outer inner : Space) : Space :=
  { inner with
    constants := outer.constants ++ inner.constants
    segments := outer.segments ++ inner.segments }

/-- The name of a namespace as it is displayed. -/
def display (s : Space) : String :=
  let name := String.intercalate "::" s.constants
  if name = "" then "<main>" else name

end Space

/-- Who owns code: whose calls are the calls in it. -/
inductive Owner where
  /-- Nobody. -/
  | nobody
  /-- A method. -/
  | method (m : MethodDef)
  /-- A callback. -/
  | callback (r : Registration)
  deriving DecidableEq, Repr, Inhabited

/-- An item of an outline. -/
inductive Item where
  /-- A namespace. Its constants and segments are those it adds to the namespace around it. -/
  | space (s : Space) (body : List Item)
  /-- Code with its owner. -/
  | owned (owner : Owner) (body : List Item)
  /-- A call that changes who may call the named methods. -/
  | directive (names : List String) (visibility : Visibility)
  /-- A call without a receiver. -/
  | bareCall (name : String) (line : Nat)
  /-- A call that uses a key. -/
  | site (s : Site)
  deriving Repr, Inhabited

/-- What is found in a file. -/
abbrev Outline := List Item

end LocaleKeys

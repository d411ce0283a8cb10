import LocaleKeys.Text.Case
import LocaleKeys.Text.Lines

/-!
# Paths

A path is a root, which may be missing, and the names below it. Empty names and single dots vanish
when a path is read; two dots stay.
-/

namespace LocaleKeys

/-- A path of the file system. -/
structure Path where
  /-- The root: nothing, `/`, or `//`. -/
  root : String
  /-- The names from the root down. -/
  names : List String
  deriving DecidableEq, Repr, Inhabited

namespace Path

/-- The root of a written path. Exactly two slashes are a root of their own; any other positive
number of them is the plain root. -/
def rootOf (cs : List Char) : String :=
  match (cs.takeWhile (· = '/')).length with
  | 0 => ""
  | 2 => "//"
  | _ => "/"

/-- The path that a text writes. -/
def ofString (s : String) : Path where
  root := rootOf s.toList
  names := (Text.cut '/' s).filter fun name => name ≠ "" && name ≠ "."

/-- All parts of a path: its root, if there is one, and its names. -/
def parts (p : Path) : List String :=
  if p.root = "" then p.names else p.root :: p.names

/-- A path as text. -/
def toString (p : Path) : String :=
  if p.root = "" ∧ p.names = [] then "." else p.root ++ String.intercalate "/" p.names

/-- The path that leads from `p` further down. -/
def below (p : Path) (names : List String) : Path :=
  { p with names := p.names ++ names }

/-- The last name of a path. -/
def name (p : Path) : String :=
  p.names.getLastD ""

/-- The part of a file name from its last dot on. A dot at either end of the name begins no
suffix. -/
def suffixOf (name : List Char) : List Char :=
  let tail := (name.reverse.takeWhile (· ≠ '.')).reverse
  if tail.length + 1 < name.length ∧ tail ≠ [] then '.' :: tail else []

/-- The suffix of a path's last name. -/
def suffix (p : Path) : String :=
  String.ofList (suffixOf p.name.toList)

/-- The order of paths: part by part, by code points. -/
def before (p q : Path) : Bool :=
  decide (p.parts < q.parts)

/-! ## Directories in which conventions apply -/

/-- The parts of a written path, with backslashes as separators too and without the plain root. -/
def normalizedParts (s : String) : List String :=
  let slashed := String.ofList (s.toList.map fun c => if c = '\\' then '/' else c)
  (ofString slashed).parts.filter fun part => part ≠ "." && part ≠ "/"

/-- Does a sequence occur in another one without gaps? It is compared with every window of its own
width; a sequence that is longer than the other one has no window. -/
def occursIn (needle parts : List String) : Bool :=
  let width := needle.length
  (List.range (parts.length + 1 - width)).any fun start =>
    (parts.drop start).take width = needle

/-- Does a file lie below one of the roots? Without roots it always does; a root without parts holds
every file. -/
def underRoots (path : String) (roots : List String) : Bool :=
  let directories := (normalizedParts path).dropLast
  roots.isEmpty ||
    roots.any fun root =>
      (normalizedParts root).isEmpty || occursIn (normalizedParts root) directories

/-! ## Files with sources -/

/-- The suffixes of files that hold sources. -/
def sourceSuffixes : List String :=
  [".rb", ".rake", ".ru", ".builder", ".jbuilder"]

/-- Does the path name a file with a source? The case of the suffix does not matter. -/
def isSource (p : Path) : Bool :=
  sourceSuffixes.contains (Text.lowered p.suffix)

end Path

end LocaleKeys

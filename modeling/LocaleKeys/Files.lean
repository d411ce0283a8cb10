import LocaleKeys.Path
import LocaleKeys.Ast.Source

/-!
# Files

A picture of the file system, and the collection of the files that are scanned: the files that are
named, and all sources below the directories that are named, apart from those below directories that
hold other people's code or results.

The picture has files and directories only. Symbolic links are left out of it, and so are questions
to the file system that fail: a directory that may not be listed, a file that may not be looked at,
a name that is too long.
-/

namespace LocaleKeys

open Ast

/-- What stands at a place of the file system. -/
inductive Entry where
  /-- A file with its bytes. -/
  | file (content : Source)
  /-- A directory. -/
  | directory
  deriving DecidableEq, Repr, Inhabited

/-- A picture of the file system. A place is given by the names that lead to it from the root. -/
structure Files where
  /-- The working directory. -/
  here : List String := []
  /-- What stands where. What leads to one of these places is a directory too; of two entries at one
  place the later one counts. -/
  entries : List (List String × Entry)
  deriving DecidableEq, Repr, Inhabited

namespace Files

/-- Does a place lie below another one? -/
def isBelow (outer inner : List String) : Bool :=
  outer.isPrefixOf inner && outer.length < inner.length

/-- The bytes of the file at a place. -/
def content? (files : Files) (place : List String) : Option Source :=
  match files.entries.reverse.lookup place with
  | some (.file content) => some content
  | _ => none

/-- Is there a file at a place? -/
def isFile (files : Files) (place : List String) : Bool :=
  (files.content? place).isSome

/-- Is there a directory at a place? -/
def isDirectory (files : Files) (place : List String) : Bool :=
  place.isPrefixOf files.here ||
    files.entries.any fun (p, entry) => (p = place && entry = .directory) || isBelow place p

/-- One step from a directory to what has a name there. Two dots lead back; the root is its own
parent. -/
def step (files : Files) (place : List String) (name : String) : Option (List String) :=
  if !files.isDirectory place then none
  else if name = ".." then some place.dropLast
  else if files.isFile (place ++ [name]) || files.isDirectory (place ++ [name]) then
    some (place ++ [name])
  else none

/-- The place to which a path leads. -/
def place? (files : Files) (p : Path) : Option (List String) :=
  p.names.foldlM files.step (if p.root = "" then files.here else [])

/-- The place to which names lead from another one, without a look at what stands there, and the
places on the way. -/
def placesAlong (start : List String) : List String → List (List String)
  | [] => [start]
  | name :: names =>
    start :: placesAlong (if name = ".." then start.dropLast else start ++ [name]) names

/-- The file system with something put where a path leads. The directories on the way are made. -/
def put (files : Files) (p : Path) (entry : Entry) : Files :=
  let places := placesAlong (if p.root = "" then files.here else []) p.names
  { files with
    entries := files.entries ++ (places.dropLast.map fun place => (place, .directory)) ++
      (places.getLast?.map fun place => (place, entry)).toList }

/-- The bytes of the file to which a path leads. -/
def read? (files : Files) (p : Path) : Option Source :=
  (files.place? p).bind files.content?

/-- The files below a place, each with the names that lead from there to it. -/
def below (files : Files) (place : List String) : List (List String) :=
  (files.entries.filter fun (p, _) => files.isFile p && isBelow place p).map
    fun (p, _) => p.drop place.length

/-- Names of directories below which nothing is collected. -/
def excluded : List String :=
  [".git", "vendor", "node_modules", "tmp", "log", "coverage", ".bundle"]

/-- The files that a path stands for. -/
def candidates (files : Files) (p : Path) : List Path :=
  match files.place? p with
  | none => []
  | some place =>
    if files.isDirectory place then
      ((files.below place).filter fun names =>
        (p.below names).isSource && !names.any excluded.contains).map p.below
    else if files.isFile place then [p]
    else []

/-- Paths in order with one more, unless it is there already. -/
def insert (p : Path) : List Path → List Path
  | [] => [p]
  | q :: rest =>
    if p.before q then p :: q :: rest
    else if q.before p then q :: insert p rest
    else q :: rest

/-- The files that paths stand for, in order and each once. -/
def collect (files : Files) (paths : List Path) : List Path :=
  (paths.flatMap files.candidates).foldl (fun found p => insert p found) []

end Files

end LocaleKeys

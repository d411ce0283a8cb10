import LocaleKeys.Command
import LocaleKeys.Data.Value.Printer
import LocaleKeys.Data.Value.Reader
import LocaleKeys.Ast.OfValue

/-!
# The program

Reads what a command needs from the file system and the environment, carries it out, and writes what
comes of it. The parse of a file is read from the file beside it whose name ends in `.tree.json`: an
object with the syntax tree of the source under `tree` and those of the expressions in its comments
under `hints`.
-/

namespace LocaleKeys.Program

open Data Ast

/-- The environment variables that are looked at. -/
def variableNames : List String :=
  ["I18N_SCAN_MODE", "I18N_SCAN_RELATIVE_ROOTS", "I18N_SCAN_MAGIC_MARKER", "I18N_SCAN_STRICT",
    "I18N_SCAN_LOG_LEVEL"]

/-- The environment. -/
def readEnvironment : IO Environment := do
  let mut env : Environment := []
  for name in variableNames do
    if let some value ← IO.getEnv name then
      env := env.set name value
  return env

/-- The place that names lead to, without a look at the file system. -/
def lexical (start : List String) (names : List String) : List String :=
  names.foldl (fun place name => if name = ".." then place.dropLast else place ++ [name]) start

/-- A place as the file system names it. -/
def location (place : List String) : String :=
  "/" ++ String.intercalate "/" place

/-- The entries at a place and below it, as far as something may be collected from them. -/
partial def gather (place : List String) : IO (List (List String × Entry)) := do
  let root ← IO.currentDir
  let path := root / location place
  if ← path.isDir then
    let mut found := [(place, Entry.directory)]
    for entry in ← path.readDir do
      if !Files.excluded.contains entry.fileName then
        let inner := place ++ [entry.fileName]
        if (← entry.path.isDir) || (Path.ofString entry.fileName).isSource then
          found := found ++ (← gather inner)
    return found
  else if ← path.pathExists then
    return [(place, .file (← IO.FS.readBinFile path).toList)]
  else
    return []

/-- The parses that stand beside a file. -/
def parsesBeside (place : List String) (source : Source) : IO Parses := do
  let root ← IO.currentDir
  let path := root / (location place ++ ".tree.json")
  if !(← path.pathExists) then return []
  match Value.read? (← IO.FS.readFile path) with
  | none => return []
  | some data =>
    let tree := ((data.get? "tree").bind (Node.ofValue? source)).map fun n => (source, n)
    let hints := match data.get? "hints" with
      | some (.object entries) => entries.filterMap fun (text, v) =>
        let bytes := Text.encoded text
        (Node.ofValue? bytes v).map fun n => (bytes, n)
      | _ => []
    return tree.toList ++ hints

/-- What is written on the standard output, as text. -/
def written : Command.Output → List String
  | .lines ls => ls
  | .keys ks => [(Value.list (ks.map .str)).indented ""]
  | .records rs => [(Value.list (rs.map Command.record)).indented ""]
  | .table rows files =>
    Command.tableTitle rows.length files ::
      rows.flatMap fun row => (Command.tableRows row).map (String.intercalate " | ")

/-- An event as text. -/
def eventText (e : Event) : String :=
  Message.text "" ⟨.debug, e.name, e.fields⟩

/-- The paths that a command line names. -/
def pathsOf (words : List String) : List Path :=
  match Command.Line.ofWords words with
  | .scan r => r.paths.map Path.ofString
  | _ => []

/-- Carry out a command line. -/
def run (words : List String) : IO UInt32 := do
  let here := (Path.ofString (← IO.currentDir).toString).names
  let mut entries ← gather (here ++ [".env"])
  for p in pathsOf words do
    entries := entries ++ (← gather (lexical (if p.root = "" then here else []) p.names))
  let mut parses : Parses := []
  for (place, entry) in entries do
    if let .file source := entry then
      parses := parses ++ (← parsesBeside place source)
  let result := Command.run parses.parser ⟨here, entries⟩ (← readEnvironment) words
  for line in written result.output do
    IO.println line
  for e in result.events do
    IO.eprint (eventText e)
  for line in result.errors do
    IO.eprintln line
  return UInt32.ofNat result.exit

end LocaleKeys.Program

/-- The program. -/
def main (words : List String) : IO UInt32 :=
  LocaleKeys.Program.run words

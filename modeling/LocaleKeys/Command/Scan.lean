import LocaleKeys.Command.Line
import LocaleKeys.Environment
import LocaleKeys.Files
import LocaleKeys.Log
import LocaleKeys.Scan
import LocaleKeys.Terminal

/-!
# Scans of many files

The files that a request names are scanned one after another. A file whose scan fails is named among
the errors and does not keep the others from being scanned; a file that cannot be read stops the
command. What is found is printed in the end, in the way that the request asks for.
-/

namespace LocaleKeys.Command

open Data Ast

/-! ## What is printed -/

/-- A record of data: its fields in order. -/
abbrev Record := List (String × Value)

/-- A row of a table. The cells are texts with tags. -/
structure Row where
  /-- The cell of the key. -/
  key : String
  /-- The cell of the place. -/
  location : String
  /-- The cell of the line. -/
  line : String
  deriving DecidableEq, Repr, Inhabited

/-- What is printed on the standard output. -/
inductive Output where
  /-- Lines of text, as a terminal shows them. -/
  | lines (ls : List String)
  /-- Keys, as data. -/
  | keys (ks : List String)
  /-- Uses of keys, as data. -/
  | records (rs : List Record)
  /-- Uses of keys in a number of files, as a table. -/
  | table (rows : List Row) (files : Nat)
  deriving Repr, Inhabited

/-- What comes of a command. -/
structure Result where
  /-- The exit code. -/
  exit : Nat
  /-- What is printed on the standard output. -/
  output : Output := .lines []
  /-- The errors, as a terminal shows them. -/
  errors : List String := []
  /-- The events that are written with the errors. -/
  events : List Event := []
  deriving Repr, Inhabited

/-- A use of a key as data. -/
def recordOf (o : Occurrence) : Record :=
  [("key", .str o.key), ("raw_key", .str o.raw), ("path", .str o.path), ("line_num", .int o.line),
    ("line_pos", .int o.column), ("line", .str o.text),
    ("default", (o.default.map Value.str).getD .null)]

/-- A use of a key as a row of a table. The path is guarded by itself. -/
def rowOf (t : Terminal) (o : Occurrence) : Row where
  key := t.guarded o.key
  location := t.guarded o.path ++ ":" ++ toString o.line
  line := t.guarded o.text

/-- An error as it is shown. -/
def errorText (t : Terminal) (message : String) : String :=
  t.shown ("[bold red]Error:[/bold red] " ++ t.guarded message)

/-- What is said when no file is found. -/
def nothingFound : String := "No Ruby files found."

/-- Keys without repetitions, in the order of their first uses. -/
def uniqueKeys (occurrences : List Occurrence) : List String :=
  (occurrences.map (·.key)).foldl (fun ks k => if ks.contains k then ks else ks ++ [k]) []

/-- What is printed of the uses of keys in a number of files. -/
def outputOf (t : Terminal) (r : Request) (occurrences : List Occurrence) (files : Nat) : Output :=
  match r.unique, r.asData with
  | true, true => .keys (uniqueKeys occurrences)
  | true, false => .lines ((uniqueKeys occurrences).flatMap fun k => t.lines (t.guarded k))
  | false, true => .records (occurrences.map recordOf)
  | false, false => .table (occurrences.map (rowOf t)) files

/-! ## The files one after another -/

/-- The settings that an environment and a request give. -/
def settingsOf (env : Environment) (r : Request) : Except SettingsFault Settings := do
  let explicit :=
    if r.roots.isEmpty then [] else [("relative_roots", Value.list (r.roots.map .str))]
  let c ← env.configuration explicit
  match r.mode with
  | some mode => return (← c.withMode (.str mode)).settings
  | none => return c.settings

/-- The scan of the file to which a path leads. -/
def scanFile (parse : Parser) (files : Files) (settings : Settings) (p : Path) : Report :=
  match files.read? p with
  | some source => Scan.bytes parse settings p.toString source
  | none => ⟨[], .error (.notFound p.toString)⟩

/-- What has come of the files that were scanned so far. -/
structure Progress where
  /-- The uses of keys that were found. -/
  occurrences : List Occurrence := []
  /-- The number of files whose scans failed. -/
  failures : Nat := 0
  /-- The errors that were printed. -/
  errors : List String := []
  /-- The events of the scans. -/
  events : List Event := []
  deriving Repr, Inhabited

/-- The progress with the scan of one more file. A fault of the scan is told and counted, and the
next file follows; any other fault stops the command where it is. -/
def Progress.add (t : Terminal) (so : Progress) (report : Report) : Except Progress Progress :=
  let so := { so with events := so.events ++ report.events }
  match report.outcome with
  | .ok found => .ok { so with occurrences := so.occurrences ++ found }
  | .error f =>
    if f.isScanFault then
      .ok { so with
        failures := so.failures + 1
        errors := so.errors ++ [errorText t f.message] }
    else .error so

/-- The progress with the scans of some more files. -/
def Progress.addAll (t : Terminal) (parse : Parser) (files : Files) (settings : Settings)
    (so : Progress) (paths : List Path) : Except Progress Progress :=
  paths.foldlM (fun so p => so.add t (scanFile parse files settings p)) so

/-- A scan of the files that a request names. -/
def scan (t : Terminal) (parse : Parser) (files : Files) (env : Environment) (r : Request) :
    Result :=
  match settingsOf env r with
  | .error fault => { exit := 2, errors := [errorText t fault.message] }
  | .ok settings =>
    match files.collect (r.paths.map Path.ofString) with
    | [] => { exit := 1, errors := [t.shown ("[bold yellow]" ++ nothingFound ++ "[/bold yellow]")] }
    | collected =>
      let log : Log := { level := Level.threshold (if r.verbose then "DEBUG" else env.logLevel) }
      let written (events : List Event) := if log.keeps .debug then events else []
      match Progress.addAll t parse files settings {} collected with
      | .error so => { exit := 1, errors := so.errors, events := written so.events }
      | .ok so =>
        { exit := if so.failures = 0 then 0 else 1
          output := outputOf t r so.occurrences collected.length
          errors := so.errors
          events := written so.events }

end LocaleKeys.Command

import LocaleKeys.Command.Scan
import LocaleKeys.Console
import LocaleKeys.Environment.File

/-!
# The command

A command line is carried out against a picture of the file system and an environment, and prints on
a wide terminal.
-/

namespace LocaleKeys.Command

open Data Ast

/-- The version of the program. -/
def version : String := "i18n-scan 0.4.0"

/-! ## Outputs as text -/

/-- The title of a table. -/
def tableTitle (occurrences files : Nat) : String :=
  "i18n keys (" ++ toString occurrences ++ " occurrences in " ++ toString files ++ " files)"

/-- The lines of a table, from the cells next to each other. A cell of several lines takes as many
lines of the table. -/
def stacked (cells : List (List String)) : List (List String) :=
  (List.range ((cells.map List.length).foldl max 0)).map fun i =>
    cells.map fun lines => lines[i]?.getD ""

/-- The lines that a row takes in a table. -/
def tableRows (row : Row) : List (List String) :=
  stacked ([row.key, row.location, row.line].map fun cell => Text.lines (Console.shown cell))

/-- A record as data. -/
def record (fields : Record) : Value := .object fields

/-! ## Command lines -/

/-- The environment with what the environment file of the working directory sets, if that can be
read and set. -/
def loaded? (files : Files) (env : Environment) : Option Environment :=
  match files.content? (files.here ++ [".env"]) with
  | none => some env
  | some content =>
    let text := Text.decoded content
    match Environment.File.load text env with
    | (env, none) => if Text.encoded text = content then some env else none
    | (_, some _) => none

/-- Carry out a command line. An environment file that is no text, or that sets what cannot be set,
stops it. -/
def run (parse : Parser) (files : Files) (env : Environment) (words : List String) : Result :=
  match Line.ofWords words with
  | .scan r =>
    match loaded? files env with
    | some env => scan Console.terminal parse files env r
    | none => { exit := 1 }
  | .version => { exit := 0, output := .lines [version] }
  | .help => { exit := 0 }
  | .misuse => { exit := 2 }

end LocaleKeys.Command

/-!
# Command lines

What the words after the name of the program ask for. Options may stand anywhere between the paths;
two dashes end them.
-/

namespace LocaleKeys.Command

/-- What a scan is asked for. -/
structure Request where
  /-- The paths, as they are written. -/
  paths : List String := []
  /-- The mode, the last one if there are several. -/
  mode : Option String := none
  /-- The directories in which controllers live. -/
  roots : List String := []
  /-- Are the results written as data? -/
  asData : Bool := false
  /-- Is each key written once? -/
  unique : Bool := false
  /-- Are all events written? -/
  verbose : Bool := false
  /-- Is help asked for? -/
  help : Bool := false
  deriving DecidableEq, Repr, Inhabited

/-- What a command line asks for. -/
inductive Line where
  /-- A scan. -/
  | scan (r : Request)
  /-- The version of the program. -/
  | version
  /-- Help. -/
  | help
  /-- Nothing that can be understood. -/
  | misuse
  deriving DecidableEq, Repr, Inhabited

/-- An option. -/
inductive Switch where
  /-- The mode, with a value. -/
  | mode
  /-- A directory in which controllers live, with a value. -/
  | root
  /-- Results as data. -/
  | data
  /-- Each key once. -/
  | unique
  /-- All events. -/
  | verbose
  /-- Help. -/
  | help
  deriving DecidableEq, Repr, Inhabited

namespace Switch

/-- The option with a long name. -/
def ofLong? (name : String) : Option Switch :=
  [("--mode", mode), ("--relative-root", .root), ("--json", .data), ("--unique", .unique),
    ("--verbose", .verbose), ("--help", .help)].lookup name

/-- The option with a letter. -/
def ofLetter? (c : Char) : Option Switch :=
  [('m', mode), ('r', .root), ('u', .unique), ('v', .verbose)].lookup c

/-- Does the option have a value? -/
def takesValue : Switch → Bool
  | .mode | .root => true
  | _ => false

/-- A request with an option added. -/
def apply (s : Switch) (value : String) (r : Request) : Request :=
  match s with
  | .mode => { r with mode := some value }
  | .root => { r with roots := r.roots ++ [value] }
  | .data => { r with asData := true }
  | .unique => { r with unique := true }
  | .verbose => { r with verbose := true }
  | .help => { r with help := true }

end Switch

/-- What a word with letters after one dash adds. The letters after an option with a value are its
value; the second result tells which option still waits for one. -/
def letters (r : Request) : List Char → Option (Request × Option Switch)
  | [] => some (r, none)
  | c :: rest =>
    match Switch.ofLetter? c with
    | none => none
    | some s =>
      if s.takesValue then
        if rest.isEmpty then some (r, some s) else some (s.apply (String.ofList rest) r, none)
      else letters (s.apply "" r) rest

/-- What a word that begins with a dash adds, and which option waits for a value. -/
def option (r : Request) (word : String) : Option (Request × Option Switch) :=
  let name := word.toList.takeWhile (· ≠ '=')
  let value := (word.toList.dropWhile (· ≠ '=')).tail?.map String.ofList
  match Switch.ofLong? (String.ofList name) with
  | some s =>
    match s.takesValue, value with
    | true, some v => some (s.apply v r, none)
    | true, none => some (r, some s)
    | false, some _ => none
    | false, none => some (s.apply "" r, none)
  | none =>
    match word.toList with
    | '-' :: '-' :: _ => none
    | _ :: cs => letters r cs
    | [] => none

/-- Is a word an option? A single dash is a path. -/
def isOption (word : String) : Bool :=
  match word.toList with
  | '-' :: _ :: _ => true
  | _ => false

/-- The request that words make. `waiting` is an option that waits for its value. -/
def request (r : Request) (waiting : Option Switch) : List String → Option Request
  | [] => if waiting.isSome then none else some r
  | word :: rest =>
    match waiting with
    | some s => request (s.apply word r) none rest
    | none =>
      if word = "--" then some { r with paths := r.paths ++ rest }
      else if isOption word then
        match option r word with
        | none => none
        | some (r, waiting) => request r waiting rest
      else request { r with paths := r.paths ++ [word] } none rest

/-- What the words after `scan` ask for. -/
def scanLine (words : List String) : Line :=
  match request {} none words with
  | none => .misuse
  | some r => if r.help then .help else if r.paths.isEmpty then .misuse else .scan r

/-- What the words after `version` ask for. It has no option but that for help and takes no
paths. -/
def versionLine (words : List String) : Line :=
  let front := words.takeWhile (· ≠ "--")
  let options := front.filter isOption
  if options.any (· ≠ "--help") then .misuse
  else if !options.isEmpty then .help
  else if front.isEmpty && words.length ≤ 1 then .version
  else .misuse

/-- What the name of a command and the words after it ask for. -/
def commandLine : List String → Line
  | "scan" :: words => scanLine words
  | "version" :: words => versionLine words
  | "--help" :: _ => .help
  | _ => .misuse

/-- What a command line asks for. Two dashes may stand before the name of the command. -/
def Line.ofWords : List String → Line
  | "--" :: words => commandLine words
  | words => commandLine words

end LocaleKeys.Command

import LocaleKeys.Environment

/-!
# Environment files

A file that sets variables, one on each line: `NAME=value`, with an optional `export` in front, an
optional comment at the end, and quotes around values that need them. A value may refer to the
values of other variables.
-/

namespace LocaleKeys.Environment.File

/-- A blank that does not end a line. -/
def isInlineBlank (c : Char) : Bool :=
  Text.isBlank c && c != '\n'

/-- A text in which every line ends with a line feed. -/
def unifyLineEnds : List Char → List Char
  | '\r' :: '\n' :: rest => '\n' :: unifyLineEnds rest
  | '\r' :: rest => '\n' :: unifyLineEnds rest
  | c :: rest => c :: unifyLineEnds rest
  | [] => []

/-- A statement without the word `export` in front. -/
def skipExport (cs : List Char) : List Char :=
  match cs with
  | 'e' :: 'x' :: 'p' :: 'o' :: 'r' :: 't' :: rest =>
    if rest.head?.any isInlineBlank then rest.dropWhile isInlineBlank else cs
  | _ => cs

/-- The name that a statement sets, and what follows. A comment has none. -/
def name? (cs : List Char) : Option (Option String × List Char) :=
  match cs with
  | '#' :: _ => some (none, cs)
  | '\'' :: rest =>
    match rest.takeWhile (· ≠ '\''), rest.dropWhile (· ≠ '\'') with
    | c :: name, _ :: rest => some (some (String.ofList (c :: name)), rest)
    | _, _ => none
  | _ =>
    let inName (c : Char) := c != '=' && c != '#' && !Text.isBlank c
    match cs.takeWhile inName with
    | [] => none
    | name => some (some (String.ofList name), cs.dropWhile inName)

/-- The text up to the closing quote, and what follows. A backslash keeps the character after it
from closing the text. -/
def quoted? (quote : Char) : List Char → Option (List Char × List Char)
  | [] => none
  | '\\' :: d :: rest => (quoted? quote rest).map fun (text, rest) => ('\\' :: d :: text, rest)
  | c :: rest =>
    if c = quote then some ([], rest)
    else (quoted? quote rest).map fun (text, rest) => (c :: text, rest)

/-- What an escape stands for in a text in these quotes. -/
def escaped? (quote c : Char) : Option Char :=
  if c = '\\' ∨ c = '\'' then some c
  else if quote = '\'' then none
  else if c = '"' then some c
  else if c = 'a' then some '\x07'
  else if c = 'b' then some '\x08'
  else if c = 'f' then some '\x0c'
  else if c = 'n' then some '\n'
  else if c = 'r' then some '\r'
  else if c = 't' then some '\t'
  else if c = 'v' then some '\x0b'
  else none

/-- A text in quotes with its escapes replaced. -/
def unescape (quote : Char) : List Char → List Char
  | '\\' :: c :: rest =>
    match escaped? quote c with
    | some ch => ch :: unescape quote rest
    | none => '\\' :: unescape quote (c :: rest)
  | c :: rest => c :: unescape quote rest
  | [] => []

/-- A value without quotes, up to a comment that blanks separate from it. -/
def beforeComment : List Char → List Char
  | [] => []
  | c :: rest =>
    if Text.isBlank c && ((c :: rest).dropWhile Text.isBlank).head? = some '#' then []
    else c :: beforeComment rest

/-- The value of a statement, from what follows the equals sign, and what comes after it. -/
def value? (cs : List Char) : Option (String × List Char) :=
  match cs.dropWhile isInlineBlank with
  | '\'' :: rest => (quoted? '\'' rest).map fun (s, rest) => (String.ofList (unescape '\'' s), rest)
  | '"' :: rest => (quoted? '"' rest).map fun (s, rest) => (String.ofList (unescape '"' s), rest)
  | _ =>
    some (String.ofList (Text.trim (beforeComment (cs.takeWhile (· ≠ '\n')))),
      cs.dropWhile (· ≠ '\n'))

/-- What follows the end of a statement: blanks, a comment, and the end of the line. -/
def afterStatement? (cs : List Char) : Option (List Char) :=
  let cs := cs.dropWhile isInlineBlank
  let cs := if cs.head? = some '#' then cs.dropWhile (· ≠ '\n') else cs
  match cs with
  | [] => some []
  | '\n' :: rest => some rest
  | _ => none

/-- What follows the line. -/
def afterLine (cs : List Char) : List Char :=
  (cs.dropWhile (· ≠ '\n')).drop 1

/-- The name and the value of a statement, and what follows it. A line that is no statement sets
nothing. -/
def statement (cs : List Char) : Option (String × Option String) × List Char :=
  let cs := skipExport cs
  match name? cs with
  | none => (none, afterLine cs)
  | some (name, rest) =>
    match rest.dropWhile isInlineBlank with
    | '=' :: rest =>
      match value? rest with
      | none => (none, afterLine rest)
      | some (value, rest) =>
        match afterStatement? rest with
        | some after => (name.map fun n => (n, some value), after)
        | none => (none, afterLine rest)
    | rest =>
      match afterStatement? rest with
      | some after => (name.map fun n => (n, none), after)
      | none => (none, afterLine rest)

/-- The statements of a text. The first argument bounds their number. -/
def statements : Nat → List Char → List (String × Option String)
  | 0, _ => []
  | fuel + 1, cs =>
    match cs.dropWhile Text.isBlank with
    | [] => []
    | cs =>
      let (found, rest) := statement cs
      found.toList ++ statements fuel rest

/-- A text without the mark of the byte order at its start. -/
def skipMark : List Char → List Char
  | '\ufeff' :: rest => rest
  | cs => cs

/-- The names and values that a file sets, in order. Every statement takes at least one character,
so the length of the text bounds their number. -/
def read (content : String) : List (String × Option String) :=
  let cs := unifyLineEnds (skipMark content.toList)
  statements cs.length cs

/-! ## References to other variables -/

/-- A reference to a variable in a value. -/
structure Reference where
  /-- The name of the variable. -/
  name : String
  /-- What stands for a variable that is not set. -/
  default : Option String
  /-- The number of characters of the reference. -/
  length : Nat
  deriving DecidableEq, Repr, Inhabited

/-- The reference at the start of a text: a dollar sign, and in braces a name and perhaps `:-` with
a default. -/
def reference? : List Char → Option Reference
  | '$' :: '\x7b' :: rest =>
    let name := rest.takeWhile fun c => c ≠ '\x7d' && c ≠ ':'
    match rest.dropWhile fun c => c ≠ '\x7d' && c ≠ ':' with
    | '\x7d' :: _ => some ⟨String.ofList name, none, name.length + 3⟩
    | ':' :: '-' :: rest =>
      let default := rest.takeWhile (· ≠ '\x7d')
      if rest.contains '\x7d' then
        some ⟨String.ofList name, some (String.ofList default), name.length + default.length + 5⟩
      else none
    | _ => none
  | _ => none

/-- A text with the values of variables in place of its references. `value` gives the value of a
reference, and the first `skip` characters belong to a reference that is done. -/
def expand (value : Reference → String) (skip : Nat) : List Char → List Char
  | [] => []
  | c :: cs =>
    match skip with
    | skip + 1 => expand value skip cs
    | 0 =>
      match reference? (c :: cs) with
      | some r => (value r).toList ++ expand value (r.length - 1) cs
      | none => c :: expand value 0 cs

/-- The value of a reference. A variable of the environment comes before one of the file; one that
the file names without a value is empty. -/
def referred (env : Environment) (settled : List (String × Option String)) (r : Reference) :
    String :=
  match env.get? r.name with
  | some value => value
  | none =>
    match settled.lookup r.name with
    | some value => value.getD ""
    | none => r.default.getD ""

/-- The values of variables with one more, which takes the place of an earlier one of its name. -/
def settle (name : String) (value : Option String) :
    List (String × Option String) → List (String × Option String)
  | [] => [(name, value)]
  | (n, v) :: rest => if n = name then (n, value) :: rest else (n, v) :: settle name value rest

/-- The value of each variable that statements set, with references replaced. A reference sees the
statements before its own; the last statement about a name counts. -/
def settled (env : Environment) (statements : List (String × Option String)) :
    List (String × Option String) :=
  statements.foldl (fun found (name, value) =>
    settle name (value.map fun v =>
      String.ofList (expand (referred env found) 0 v.toList)) found) []

/-! ## Loading -/

/-- The environment after variables are set in turn, up to the first that cannot be set. Those that
are set already stay as they are, and a name without a value sets nothing. -/
def setAll (env : Environment) :
    List (String × Option String) → Environment × Option VariableFault
  | [] => (env, none)
  | (name, value) :: rest =>
    match env.get? name, value with
    | none, some v =>
      match env.set? name v with
      | .ok env => setAll env rest
      | .error fault => (env, some fault)
    | _, _ => setAll env rest

/-- The environment after a file is loaded, and what stopped that. -/
def load (content : String) (env : Environment) : Environment × Option VariableFault :=
  setAll env (settled env (read content))

end LocaleKeys.Environment.File

import LocaleKeys.Resolve
import LocaleKeys.Ast.Parses
import LocaleKeys.Ast.Stack

/-!
# Hints

A hint is a comment that declares uses of keys which no call shows:

    # i18n-tasks-use t('some.dynamic.key')
    send("some_key")

A hint belongs to the next line of code, at the end of a file to the last one, and in a file without
code to its own line.
-/

namespace LocaleKeys

open Ast

/-- A use of a key that a comment declares. -/
structure Hint where
  /-- The key in full. -/
  key : String
  /-- The key as it is written. -/
  raw : String
  /-- The default text, if a literal one is given. -/
  default : Option String
  deriving DecidableEq, Repr, Inhabited

namespace Hint

/-! ## The marker -/

/-- What follows the marker of a comment: an expression after blanks, or nothing. The outer option
tells whether the comment has that form. -/
def afterMarker? : List Char → Option (Option (List Char))
  | [] => some none
  | c :: rest =>
    match (c :: rest).takeWhile Text.isBlank, (c :: rest).dropWhile Text.isBlank with
    | _ :: _, expression@(_ :: _) => some (some expression)
    | _, _ => none

/-- What follows a marker that stands at the start of a text or after the blanks there, most blanks
first. -/
def afterBlanks? (marker : List Char) : List Char → Option (Option (List Char))
  | [] => if marker.isEmpty then some none else none
  | c :: rest =>
    let later := if Text.isBlank c then afterBlanks? marker rest else none
    match later with
    | some found => some found
    | none =>
      if marker.isPrefixOf (c :: rest) then afterMarker? ((c :: rest).drop marker.length) else none

/-- What follows a marker that stands after one or more number signs and blanks, most number signs
first. -/
def afterSigns? (marker : List Char) : List Char → Option (Option (List Char))
  | '#' :: rest =>
    match afterSigns? marker rest with
    | some found => some found
    | none => afterBlanks? marker rest
  | _ => none

/-- The expression of a trimmed comment line that has the marker. -/
def expression? (marker line : String) : Option String :=
  ((afterSigns? marker.toList line.toList).bind id).map String.ofList

/-! ## The expression -/

/-- The hint that a lookup gives, if its key is complete. -/
def ofLookup? (settings : Settings) (l : Lookup) : Option Hint :=
  match l.key with
  | none => none
  | some key =>
    if key.text = "" || Key.isRelative key.text || (key.interpolated && settings.strict) then none
    else
      match Key.absolute? key.text l.options with
      | some full => if full = "" then none else some ⟨full, key.text, l.options.default?⟩
      | none => none

/-- A node as a lookup, if it is a call and the call is one. -/
def lookup? (settings : Settings) (n : Node) : Option Lookup :=
  if n.kind = .call then Lookup.ofCall? settings n else none

/-- What a search for lookups has found in the end. The nodes that are still to be looked at wait on
a stack, with the next one on top, which is its end; `found` is what has been found so far. -/
def lookupsOn (settings : Settings) (stack : Array Node) (found : Array Lookup) : Array Lookup :=
  match _ : stack.back? with
  | none => found
  | some n =>
    let next := stack.pop ++ n.named.reverse
    match lookup? settings n with
    | some l => lookupsOn settings next (found.push l)
    | none => lookupsOn settings next found
termination_by Node.sizeAll stack.toList
decreasing_by
  all_goals
    exact Node.sizeAll_step_lt ‹stack.back? = some n› (Node.sizeAll_filter_le _ n.children)

/-- The lookups in an expression. -/
def lookups (settings : Settings) (root : Node) : List Lookup :=
  (lookupsOn settings #[root] #[]).toList

/-- What is found in an expression: the hints, or what is said instead. -/
def ofExpression (parse : Parser) (settings : Settings) (path : String) (line : Nat)
    (expression : String) : List (Except Event Hint) :=
  let root := parse (Text.encoded expression)
  if root.tag.hasError then [.error (.hintUnreadable path line)]
  else
    (lookups settings root).map fun l =>
      match ofLookup? settings l with
      | some hint => .ok hint
      | none => .error (.hintDropped path line)

/-! ## The lines -/

/-- What a line is for hints. -/
inductive LineKind where
  /-- Nothing but blanks. -/
  | blank
  /-- A comment. -/
  | comment
  /-- Code. -/
  | code
  deriving DecidableEq, Repr, Inhabited

/-- What a line is for hints. -/
def lineKind (line : String) : LineKind :=
  match Text.trim line.toList with
  | [] => .blank
  | '#' :: _ => .comment
  | _ => .code

/-- What is found in a line. -/
def ofLine (parse : Parser) (settings : Settings) (path : String) (number : Nat) (line : String) :
    List (Except Event Hint) :=
  match lineKind line with
  | .comment =>
    match expression? settings.marker (Text.trimmed line) with
    | some expression => ofExpression parse settings path number expression
    | none => []
  | _ => []

/-- A line with its number. -/
structure NumberedLine where
  /-- The number of the line, counted from one. -/
  number : Nat
  /-- The text of the line. -/
  text : String
  deriving DecidableEq, Repr, Inhabited

/-- The column at which the text of a line begins, counted from one. -/
def indentation (line : String) : Nat :=
  (line.toList.takeWhile Text.isBlank).length + 1

/-- A hint as a use of a key at a line. -/
def occurrence (path : String) (line : NumberedLine) (h : Hint) : Occurrence where
  key := h.key
  raw := h.raw
  path
  line := line.number
  column := indentation line.text
  text := Text.trimmed line.text
  default := h.default

/-- Hints that wait for a line of code, each with its own line. -/
abbrev Waiting := List (NumberedLine × Hint)

/-- The uses that hints at the end of a file declare: at the last line of code, or else at their own
lines. -/
def leftOver (path : String) (last : Option NumberedLine) (waiting : Waiting) : List Occurrence :=
  waiting.map fun (own, h) => h.occurrence path (last.getD own)

/-- The uses that the hints in lines declare. `found` tells what is found in a line, `waiting` are
the hints that wait for a line of code, and `last` is the last line of code. -/
def attach (path : String) (found : NumberedLine → List Hint) (waiting : Waiting)
    (last : Option NumberedLine) : List NumberedLine → List Occurrence
  | [] => leftOver path last waiting
  | line :: rest =>
    match lineKind line.text with
    | .blank => attach path found waiting last rest
    | .comment =>
      attach path found (waiting ++ (found line).map fun h => (line, h)) last rest
    | .code =>
      waiting.map (fun (_, h) => h.occurrence path line) ++ attach path found [] (some line) rest

/-- The lines of a file with their numbers. -/
def numberedLines (d : Document) : List NumberedLine :=
  (d.lines.zipIdx 1).map fun (text, number) => ⟨number, text⟩

/-- The hints among what is found. -/
def hintsOf (found : List (Except Event Hint)) : List Hint :=
  found.filterMap Except.toOption

/-- The events among what is found. -/
def eventsOf (found : List (Except Event Hint)) : List Event :=
  found.filterMap fun
    | .error e => some e
    | .ok _ => none

/-- The uses that the comments of a file declare. -/
def occurrences (parse : Parser) (settings : Settings) (d : Document) : List Occurrence :=
  attach d.path (fun line => hintsOf (ofLine parse settings d.path line.number line.text)) [] none
    (numberedLines d)

/-- What is said about the comments of a file. -/
def events (parse : Parser) (settings : Settings) (d : Document) : List Event :=
  (numberedLines d).flatMap fun line =>
    eventsOf (ofLine parse settings d.path line.number line.text)

end Hint

end LocaleKeys

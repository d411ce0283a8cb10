import LocaleKeys.Data.Value
import LocaleKeys.Text.Case
import LocaleKeys.Text.Lines

/-!
# Messages

Messages have a level, and a log keeps those that reach its own level. They are kept as records or
as text: a line with the level, what happened and what else is said about it, and below it what the
message says about the state of the program.
-/

namespace LocaleKeys

open Data

/-- The level of a message. -/
inductive Level where
  /-- For finding faults. -/
  | debug
  /-- For information. -/
  | info
  /-- Something may be wrong. -/
  | warning
  /-- Something is wrong. -/
  | error
  /-- Nothing works any more. -/
  | critical
  deriving DecidableEq, Repr, Inhabited

namespace Level

/-- How much a level weighs. -/
def weight : Level → Nat
  | .debug => 10
  | .info => 20
  | .warning => 30
  | .error => 40
  | .critical => 50

/-- The name of a level. -/
def name : Level → String
  | .debug => "debug"
  | .info => "info"
  | .warning => "warning"
  | .error => "error"
  | .critical => "critical"

/-- The level that a log is asked to keep. Case does not matter, and any other name asks for
warnings. -/
def threshold (s : String) : Level :=
  ([("DEBUG", debug), ("INFO", .info), ("WARN", .warning), ("WARNING", .warning),
    ("ERROR", .error)].lookup (Text.asciiCapitals s)).getD .warning

end Level

/-- A message. -/
structure Message where
  /-- Its level. -/
  level : Level
  /-- What happened. -/
  event : String
  /-- What else is said, by name. -/
  fields : List (String × Value)
  deriving Repr, Inhabited

namespace Message

/-- The message that a method writes, by the name of the method. Two levels have a second method. A
message about an exception is an error that says so, unless it says otherwise. -/
def ofMethod? (method event : String) (fields : List (String × Value)) : Option Message :=
  match method with
  | "debug" => some ⟨.debug, event, fields⟩
  | "info" => some ⟨.info, event, fields⟩
  | "warning" | "warn" => some ⟨.warning, event, fields⟩
  | "error" => some ⟨.error, event, fields⟩
  | "critical" | "fatal" => some ⟨.critical, event, fields⟩
  | "exception" =>
    if fields.any (·.1 = "exc_info") then some ⟨.error, event, fields⟩
    else some ⟨.error, event, fields ++ [("exc_info", .bool true)]⟩
  | _ => none

/-- A message without what it says under some names. -/
def without (m : Message) (names : List String) : Message :=
  { m with fields := m.fields.filter (!names.contains ·.1) }

/-- What a message says under a name. What is absent is not said. -/
def said? (m : Message) (name : String) : Option Value :=
  match m.fields.lookup name with
  | some .null => none
  | v => v

/-- A message as a record. -/
def record (m : Message) : Value :=
  .object (m.fields ++ [("event", .str m.event), ("level", .str m.level.name)])

/-! ## Messages as text -/

/-- A text followed by blanks up to a width. -/
def padded (width : Nat) (s : String) : String :=
  s ++ String.ofList (List.replicate (width - s.length) ' ')

/-- The characters for which a text is put in quotes. -/
def quotedChars : List Char := [' ', '\t', '=', '\r', '\n', '"', '\'']

/-- A value as it stands behind a name. -/
def valueText : Value → String
  | .str s => if s.toList.any quotedChars.contains then Text.quoted s else s
  | v => v.display

/-- The names that have a place of their own in a message, apart from those of its first line. -/
def below : List String := ["stack", "exception", "exc_info"]

/-- The names of the part of the program that writes. -/
def writers : List String := ["logger", "logger_name"]

/-- The first line of a message: when it was written, its level, what happened, who wrote it and
what else is said. -/
def headline (time : String) (m : Message) : String :=
  let front := [time, "[" ++ padded 9 m.level.name ++ "]", padded 30 m.event]
  let writer := writers.filterMap fun name =>
    (m.fields.lookup name).map fun v => "[" ++ v.text ++ "]"
  let rest := (m.fields.filter fun f => !below.contains f.1 && !writers.contains f.1).map
    fun f => f.1 ++ "=" ++ valueText f.2
  let line := String.intercalate " " ((front ++ writer ++ rest).filter (· ≠ ""))
  String.ofList (line.toList.reverse.dropWhile (· = ' ')).reverse

/-- The line between the two parts below the first line. -/
def rule : String := String.ofList (List.replicate 79 '=')

/-- A message as text. Below the first line come the stack and the exception, with a rule between
them. Where the message is about the exception at hand, and there is none, none is written. -/
def text (time : String) (m : Message) : String :=
  let atHand := ((m.said? "exc_info").map Value.isTrue).getD false
  let stack := match m.said? "stack" with
    | some v =>
      "\n" ++ v.text ++
        (if atHand || (m.said? "exception").isSome then "\n\n" ++ rule ++ "\n" else "")
    | none => ""
  let exception := match m.said? "exception" with
    | some v => if atHand then "" else "\n" ++ v.text
    | none => ""
  m.headline time ++ stack ++ exception ++ "\n"

end Message

/-- A log. -/
structure Log where
  /-- Its name. -/
  name : String := ""
  /-- The least level of the messages that are kept. -/
  level : Level
  /-- Are messages kept as records? -/
  asRecords : Bool := false
  /-- The names under which the log keeps notes of its own. -/
  notes : List String := []
  deriving DecidableEq, Repr, Inhabited

/-- What a log makes of a message. -/
inductive Logged where
  /-- Records. -/
  | records (rs : List Value)
  /-- A number of lines. -/
  | lines (count : Nat)
  deriving Repr, Inhabited

namespace Log

/-- Does a message of the part of a program with this name go to the log? That of the log's own name
does, and that of every name below it; a part without a name has that of the log. -/
def isOwn (log : Log) (part : String) : Bool :=
  part = "" || part = log.name || (log.name ++ ".").toList.isPrefixOf part.toList

/-- Does the log keep messages of a level? -/
def keeps (log : Log) (level : Level) : Bool :=
  log.level.weight ≤ level.weight

/-- The names under which a log adds something itself; what a message says under them is lost. -/
def reserved (log : Log) : List String :=
  ["event", "level", "timestamp"] ++ log.notes

/-- What the log makes of a message of its own. -/
def write (log : Log) (m : Message) : Logged :=
  let kept := if log.keeps m.level then [m.without log.reserved] else []
  if log.asRecords then .records (kept.map Message.record)
  else .lines (kept.flatMap fun m => Text.outputLines (m.text "").toList).length

/-- What is made of a message that is none of the log's own: it is never among the records, and it
takes one line if it is a warning or worse. -/
def writeForeign (log : Log) (m : Message) : Logged :=
  if log.asRecords then .records []
  else .lines (if Level.warning.weight ≤ m.level.weight then 1 else 0)

/-- What is made of a message of the part of a program with a name. -/
def writeFor (log : Log) (part : String) (m : Message) : Logged :=
  if log.isOwn part then log.write m else log.writeForeign m

end Log

end LocaleKeys

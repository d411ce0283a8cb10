import LocaleKeys.Terminal
import LocaleKeys.Text.Emoji

/-!
# A wide terminal

A terminal that is as wide as it has to be, so that no line is ever broken. A tag is shown only if a
guard stands before it, which is a backslash that belongs to no pair of them. The guards are not
perfect: a backslash before a bracket that opens no tag is lost, and a single one at the end of a
text is doubled.

Programs run on this terminal. What is stated about commands holds on every faithful one.
-/

namespace LocaleKeys.Console

/-! ## Tags -/

/-- A character with which a tag may begin. -/
def isTagStart (c : Char) : Bool :=
  ('a' ≤ c && c ≤ 'z') || c == '#' || c == '/' || c == '@'

/-- The number of characters of the tag at the start of a text: a bracket, something that begins
like a tag and holds no bracket, and the closing bracket. -/
def tagLength? : List Char → Option Nat
  | '[' :: c :: rest =>
    let inside := rest.takeWhile fun d => d ≠ '[' && d ≠ ']'
    if isTagStart c && (rest.drop inside.length).head? = some ']' then some (inside.length + 3)
    else none
  | _ => none

/-! ## Guards -/

/-- A text with guards before its tags: as many backslashes as stand there already, and one more.
`slashes` is the number of backslashes just before the text. -/
def guardTags (slashes : Nat) : List Char → List Char
  | [] => []
  | c :: cs =>
    if c = '\\' then c :: guardTags (slashes + 1) cs
    else if (tagLength? (c :: cs)).isSome then
      List.replicate (slashes + 1) '\\' ++ c :: guardTags 0 cs
    else c :: guardTags 0 cs

/-- A text with a backslash added to a single one at its end. -/
def guardEnd (cs : List Char) : List Char :=
  match cs.reverse with
  | ['\\'] => ['\\', '\\']
  | '\\' :: c :: _ => if c = '\\' then cs else cs ++ ['\\']
  | _ => cs

/-- A text with guards. -/
def guarded (s : String) : String :=
  String.ofList (guardEnd (guardTags 0 s.toList))

/-- A text without the backslashes that stand before brackets. -/
def dropGuards : List Char → List Char
  | '\\' :: '[' :: rest => '[' :: dropGuards rest
  | c :: rest => c :: dropGuards rest
  | [] => []

/-! ## What is shown -/

/-- A character put before the first piece. -/
def onto (c : Char) : List (List Char) → List (List Char)
  | [] => [[c]]
  | piece :: pieces => (c :: piece) :: pieces

/-- The pieces of a text that are shown: what stands between the tags, half of the backslashes
before each tag, and the tag itself if there is an odd one. The first `skip` characters are done. -/
def pieces (skip : Nat) : List Char → List (List Char)
  | [] => [[]]
  | c :: cs =>
    match skip with
    | skip + 1 => pieces skip cs
    | 0 =>
      let slashes := ((c :: cs).takeWhile (· = '\\')).length
      let after := (c :: cs).drop slashes
      match tagLength? after with
      | some width =>
        [] :: List.replicate (slashes / 2) '\\' ::
          (if slashes % 2 = 1 then after.take width else []) :: pieces (slashes + width - 1) cs
      | none => onto c (pieces 0 cs)

/-- A character that a terminal does not show: a bell, a backspace, and what moves to another line
without ending one. -/
def isUnshown (c : Char) : Bool :=
  ['\x07', '\x08', '\x0b', '\x0c', '\r'].contains c

/-- A text as a terminal takes it, before tabs are set. -/
def taken (cs : List Char) : List Char :=
  ((pieces 0 cs).flatMap fun piece => Text.withEmoji Text.emoji? 0 (dropGuards piece)).filter
    (!isUnshown ·)

/-- The distance between two places for tabs. -/
def tabWidth : Nat := 8

/-- A text with blanks in place of tabs. `column` is the number of characters before it in its
line. -/
def setTabs (column : Nat) : List Char → List Char
  | [] => []
  | c :: cs =>
    if c = '\t' then
      let width := tabWidth - column % tabWidth
      List.replicate width ' ' ++ setTabs (column + width) cs
    else if c = '\n' then c :: setTabs 0 cs
    else c :: setTabs (column + 1) cs

/-- A text with tags as it is shown. -/
def shown (s : String) : String :=
  String.ofList (setTabs 0 (taken s.toList))

/-- The lines of an output that shows a text with tags. -/
def lines (s : String) : List String :=
  (Text.outputLines ((shown s).toList ++ ['\n'])).map String.ofList

/-- The terminal. -/
def terminal : Terminal := { guarded, shown, lines }

end LocaleKeys.Console

import LocaleKeys.Text.Blank
import LocaleKeys.Text.Case
import LocaleKeys.Text.Emoji.Table
import LocaleKeys.Text.Lines

/-!
# Emoji

A name of an emoji between colons stands for the emoji, as in `:heart:`. A hyphen and `text` or
`emoji` after the name ask for its plain or its coloured form.
-/

namespace LocaleKeys.Text

/-- The words of a text, with blanks between them. -/
def words (cs : List Char) : List String :=
  ((pieces ' ' (cs.map fun c => if isBlank c then ' ' else c)).filter (· ≠ [])).map String.ofList

/-- Words in pairs. -/
def inPairs : List String → List (String × String)
  | name :: symbol :: rest => (name, symbol) :: inPairs rest
  | _ => []

/-- The emoji with a name. Case does not matter. -/
def emoji? (name : String) : Option String :=
  (inPairs (words emojiListing.toList)).lookup (lowered name)

/-- The form that a hyphen and a word at the end of a code ask for: the name before it, and the
character that selects the form. -/
def emojiForm (code : List Char) : List Char × List Char :=
  if "-emoji".toList.isSuffixOf code then (code.take (code.length - 6), ['️'])
  else if "-text".toList.isSuffixOf code then (code.take (code.length - 5), ['︎'])
  else (code, [])

/-- What a code between colons stands for: an emoji, or itself if it names none. `named` gives the
emoji with a name. -/
def emojiCode (named : String → Option String) (code : List Char) : List Char :=
  let (name, form) := emojiForm code
  match named (String.ofList name) with
  | some symbol => symbol.toList ++ form
  | none => ':' :: code ++ [':']

/-- The code after a colon: what stands before the next colon, if no blank comes first. -/
def codeAt? (cs : List Char) : Option (List Char) :=
  let code := cs.takeWhile fun c => c ≠ ':' && !isBlank c
  match cs.drop code.length with
  | ':' :: _ => some code
  | _ => none

/-- A text with emoji in place of their codes, found from the left and without overlap. The first
`skip` characters belong to a code that is done. -/
def withEmoji (named : String → Option String) (skip : Nat) : List Char → List Char
  | [] => []
  | c :: cs =>
    match skip with
    | skip + 1 => withEmoji named skip cs
    | 0 =>
      if c = ':' then
        match codeAt? cs with
        | some code => emojiCode named code ++ withEmoji named (code.length + 1) cs
        | none => c :: withEmoji named 0 cs
      else c :: withEmoji named 0 cs

end LocaleKeys.Text

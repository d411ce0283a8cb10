/-!
# Lines

Cutting a sequence at a separator. Two neighbouring separators have an empty piece between them, so
there is always one piece more than there are separators.

The lines of an output are told apart by more characters than the lines of a source, and a break at
the very end opens no further line.
-/

namespace LocaleKeys.Text

/-- The pieces of a sequence between the places where `sep` stands. -/
def pieces {α : Type} [DecidableEq α] (sep : α) : List α → List (List α)
  | [] => [[]]
  | a :: as =>
    if a = sep then [] :: pieces sep as
    else
      match pieces sep as with
      | [] => [[a]]
      | piece :: rest => (a :: piece) :: rest

/-- The pieces of a string between the places where a character stands. -/
def cut (sep : Char) (s : String) : List String :=
  (pieces sep s.toList).map String.ofList

/-- The lines of a text. Only the line feed ends a line. -/
def lines (text : String) : List String :=
  cut '\n' text

/-- A character that ends a line of an output. -/
def isLineBreak (c : Char) : Bool :=
  ['\n', '\r', '\x0b', '\x0c', '\x1c', '\x1d', '\x1e', '\u0085', '\u2028', '\u2029'].contains c

/-- The lines of an output. A carriage return and the line feed after it are one break. -/
def outputLines : List Char → List (List Char)
  | [] => []
  | '\r' :: '\n' :: rest => [] :: outputLines rest
  | c :: rest =>
    if isLineBreak c then [] :: outputLines rest
    else
      match outputLines rest with
      | [] => [[c]]
      | line :: lines => (c :: line) :: lines

end LocaleKeys.Text

import LocaleKeys.Text.Case
import LocaleKeys.Text.Decimal

/-!
# Names of constants and of key segments

A constant such as `HTMLParser` names the key segment `html_parser`. `Name.underscore` breaks a
constant into words and joins them with underscores, in lower case.
-/

namespace LocaleKeys.Name

/-- An ASCII capital letter. -/
def isCapital (c : Char) : Bool :=
  'A' ≤ c && c ≤ 'Z'

/-- An ASCII small letter. -/
def isSmall (c : Char) : Bool :=
  'a' ≤ c && c ≤ 'z'

/-- A character that may stand in an acronym. -/
def isAcronymChar (c : Char) : Bool :=
  isCapital c || Text.isDigit c

/-- A character that may end a word. -/
def isWordEnd (c : Char) : Bool :=
  isSmall c || Text.isDigit c

/-- An acronym that a capitalised word follows, at the very start of a text. -/
structure Acronym where
  /-- The acronym. -/
  front : List Char
  /-- The capital letter that begins the word. -/
  capital : Char
  /-- The small letter after it. -/
  small : Char
  /-- What follows. -/
  rest : List Char

/-- The acronym at the start of a text: the longest run of capitals and digits without its last
letter, which is a capital that a small letter follows. -/
def acronym? (cs : List Char) : Option Acronym :=
  match (cs.takeWhile isAcronymChar).reverse, cs.dropWhile isAcronymChar with
  | capital :: c :: front, small :: rest =>
    if isCapital capital && isSmall small then some ⟨(c :: front).reverse, capital, small, rest⟩
    else none
  | _, _ => none

theorem Acronym.rest_length_lt {cs : List Char} {a : Acronym} (h : acronym? cs = some a) :
    a.rest.length < cs.length := by
  unfold acronym? at h
  split at h
  · next small rest _ hd =>
    split at h
    · have := (List.dropWhile_sublist isAcronymChar (l := cs)).length_le
      rw [hd] at this
      cases h
      exact this
    · cases h
  · cases h

/-- An underscore between every acronym and the capitalised word after it, found from the left and
without overlap. -/
def breakAcronyms : List Char → List Char
  | [] => []
  | c :: cs =>
    match _found : acronym? (c :: cs) with
    | some a => a.front ++ '_' :: a.capital :: a.small :: breakAcronyms a.rest
    | none => c :: breakAcronyms cs
termination_by cs => cs.length
decreasing_by
  · exact Acronym.rest_length_lt _found
  · simp

/-- An underscore between every word and the capital after it, found from the left and without
overlap. -/
def breakWords : List Char → List Char
  | c :: d :: rest =>
    if isWordEnd c && isCapital d then c :: '_' :: d :: breakWords rest
    else c :: breakWords (d :: rest)
  | cs => cs

/-- A dash becomes an underscore. -/
def joinDash (c : Char) : Char :=
  if c = '-' then '_' else c

/-- The key segment that a constant names. -/
def underscore (name : String) : String :=
  String.ofList (Text.lower ((breakWords (breakAcronyms name.toList)).map joinDash))

/-- Does a name end in a suffix? -/
def endsIn (name suffix : String) : Bool :=
  suffix.toList.isSuffixOf name.toList

/-- A name without a suffix, unless nothing would be left. -/
def stripSuffix (name suffix : String) : String :=
  if endsIn name suffix && suffix.length < name.length then
    String.ofList (name.toList.take (name.length - suffix.length))
  else name

end LocaleKeys.Name

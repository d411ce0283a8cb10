import LocaleKeys.Data.Value

/-!
# Reading values

Values written as JSON. Numbers are whole numbers.
-/

namespace LocaleKeys.Data.Value

/-- White space between the parts of a written value. -/
def isGap (c : Char) : Bool :=
  c == ' ' || c == '\n' || c == '\r' || c == '\t'

/-- A written value without the white space before it. -/
def skipGap (cs : List Char) : List Char :=
  cs.dropWhile isGap

/-- The value of a hexadecimal digit. -/
def hexValue? (c : Char) : Option Nat :=
  if '0' ≤ c ∧ c ≤ '9' then some (c.toNat - 48)
  else if 'a' ≤ c ∧ c ≤ 'f' then some (c.toNat - 87)
  else if 'A' ≤ c ∧ c ≤ 'F' then some (c.toNat - 55)
  else none

/-- The number that four hexadecimal digits write. -/
def hexUnit? (a b c d : Char) : Option Nat := do
  let a ← hexValue? a
  let b ← hexValue? b
  let c ← hexValue? c
  let d ← hexValue? d
  return ((a * 16 + b) * 16 + c) * 16 + d

/-- The character that a short escape stands for. -/
def escaped? (c : Char) : Option Char :=
  if c = 'n' then some '\n'
  else if c = 't' then some '\t'
  else if c = 'r' then some '\r'
  else if c = 'b' then some '\x08'
  else if c = 'f' then some '\x0c'
  else if c = '"' ∨ c = '\\' ∨ c = '/' then some c
  else none

/-- The text that code points spell, where two halves of a pair stand for one character. -/
def spell : List Nat → List Char
  | high :: low :: rest =>
    if 0xd800 ≤ high ∧ high < 0xdc00 ∧ 0xdc00 ≤ low ∧ low < 0xe000 then
      Char.ofNat (0x10000 + (high - 0xd800) * 0x400 + (low - 0xdc00)) :: spell rest
    else Char.ofNat high :: spell (low :: rest)
  | [n] => [Char.ofNat n]
  | [] => []

/-- The rest of a text up to its closing quote, and what follows. `seen` holds the code points that
were read before, the last one first. -/
def readText (seen : List Nat) : List Char → Option (String × List Char)
  | [] => none
  | '"' :: rest => some (String.ofList (spell seen.reverse), rest)
  | '\\' :: 'u' :: a :: b :: c :: d :: rest =>
    match hexUnit? a b c d with
    | some unit => readText (unit :: seen) rest
    | none => none
  | '\\' :: c :: rest =>
    match escaped? c with
    | some ch => readText (ch.toNat :: seen) rest
    | none => none
  | c :: rest => readText (c.toNat :: seen) rest

/-- A whole number, and what follows. -/
def readNumber (cs : List Char) : Option (Int × List Char) :=
  let digits (cs : List Char) : Option (Nat × List Char) :=
    let run := cs.takeWhile (fun c => '0' ≤ c && c ≤ '9')
    if run.isEmpty then none
    else some (run.foldl (fun n c => n * 10 + (c.toNat - 48)) 0, cs.drop run.length)
  match cs with
  | '-' :: rest => (digits rest).map fun (n, rest) => (-(n : Int), rest)
  | _ => (digits cs).map fun (n, rest) => ((n : Int), rest)

mutual

/-- A value, and what follows. The first argument bounds the number of nested and neighbouring
values. -/
def readFrom : Nat → List Char → Option (Value × List Char)
  | 0, _ => none
  | fuel + 1, cs =>
    match skipGap cs with
    | 'n' :: 'u' :: 'l' :: 'l' :: rest => some (.null, rest)
    | 't' :: 'r' :: 'u' :: 'e' :: rest => some (.bool true, rest)
    | 'f' :: 'a' :: 'l' :: 's' :: 'e' :: rest => some (.bool false, rest)
    | '"' :: rest => (readText [] rest).map fun (s, rest) => (.str s, rest)
    | '[' :: rest =>
      match skipGap rest with
      | ']' :: rest => some (.list [], rest)
      | rest => (readItems fuel [] rest).map fun (items, rest) => (.list items, rest)
    | '\x7b' :: rest =>
      match skipGap rest with
      | '\x7d' :: rest => some (.object [], rest)
      | rest => (readEntries fuel [] rest).map fun (entries, rest) => (.object entries, rest)
    | rest => (readNumber rest).map fun (n, rest) => (.int n, rest)

/-- The items of a sequence up to its closing bracket. -/
def readItems : Nat → List Value → List Char → Option (List Value × List Char)
  | 0, _, _ => none
  | fuel + 1, seen, cs =>
    match readFrom fuel cs with
    | none => none
    | some (v, rest) =>
      match skipGap rest with
      | ',' :: rest => readItems fuel (v :: seen) rest
      | ']' :: rest => some ((v :: seen).reverse, rest)
      | _ => none

/-- The entries of an object up to its closing brace. -/
def readEntries : Nat → List (String × Value) → List Char →
    Option (List (String × Value) × List Char)
  | 0, _, _ => none
  | fuel + 1, seen, cs =>
    match skipGap cs with
    | '"' :: rest =>
      match readText [] rest with
      | none => none
      | some (name, rest) =>
        match skipGap rest with
        | ':' :: rest =>
          match readFrom fuel rest with
          | none => none
          | some (v, rest) =>
            match skipGap rest with
            | ',' :: rest => readEntries fuel ((name, v) :: seen) rest
            | '\x7d' :: rest => some (((name, v) :: seen).reverse, rest)
            | _ => none
        | _ => none
    | _ => none

end

/-- The value that a text writes. Every nested or neighbouring value takes at least one character,
so the length of the text bounds their number. -/
def read? (text : String) : Option Value :=
  let cs := text.toList
  match readFrom (cs.length + 1) cs with
  | some (v, rest) => if (skipGap rest).isEmpty then some v else none
  | none => none

end LocaleKeys.Data.Value

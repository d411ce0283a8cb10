import LocaleKeys.Text.Blank
import LocaleKeys.Text.Decimal

/-!
# Numerals

Whole numbers as program texts write them: decimal without leading zeros, or in base sixteen, eight
or two after `0x`, `0o` or `0b`. A decimal numeral may have at most `maxDecimalDigits` digits.
-/

namespace LocaleKeys.Text

/-- The greatest number of digits of a decimal numeral. -/
def maxDecimalDigits : Nat := 4300

/-- The ASCII character that stands for a blank or a digit of any script. What is neither becomes a
character that no numeral holds. -/
def numeralChar (c : Char) : Char :=
  if c.toNat < 127 then c
  else if isBlank c then ' '
  else
    match digitValue? c with
    | some d => Char.ofNat (48 + d)
    | none => '?'

/-- A blank that may stand around a numeral. -/
def isNumeralBlank (c : Char) : Bool :=
  ('\t' ≤ c && c ≤ '\r') || c == ' '

/-- The value of an ASCII digit or letter as a digit. -/
def digitOf? (c : Char) : Option Nat :=
  if '0' ≤ c ∧ c ≤ '9' then some (c.toNat - 48)
  else if 'a' ≤ c ∧ c ≤ 'z' then some (c.toNat - 87)
  else if 'A' ≤ c ∧ c ≤ 'Z' then some (c.toNat - 55)
  else none

/-- Is the character a digit in this base? -/
def isDigitIn (base : Nat) (c : Char) : Bool :=
  (digitOf? c).any (· < base)

/-- The number that digits write in a base. -/
def valueIn (base : Nat) (cs : List Char) : Nat :=
  cs.foldl (fun n c => n * base + (digitOf? c).getD 0) 0

/-- Digits in a base, at least one, with nothing but blanks after them. -/
def readDigits (base : Nat) (cs : List Char) : Option (List Char) :=
  let digits := cs.takeWhile (isDigitIn base)
  if digits.isEmpty || (cs.dropWhile (isDigitIn base)).any (!isNumeralBlank ·) then none
  else some digits

/-- A decimal numeral: not too long, and with a leading zero only if it is zero. -/
def readDecimal (cs : List Char) : Option Nat :=
  match readDigits 10 cs with
  | none => none
  | some digits =>
    if maxDecimalDigits < digits.length then none
    else if digits.head? = some '0' && valueIn 10 digits != 0 then none
    else some (valueIn 10 digits)

/-- A numeral without sign. -/
def readUnsigned : List Char → Option Nat
  | '0' :: x :: rest =>
    if x = 'x' ∨ x = 'X' then (readDigits 16 rest).map (valueIn 16)
    else if x = 'o' ∨ x = 'O' then (readDigits 8 rest).map (valueIn 8)
    else if x = 'b' ∨ x = 'B' then (readDigits 2 rest).map (valueIn 2)
    else readDecimal ('0' :: x :: rest)
  | cs => readDecimal cs

/-- A numeral with an optional sign and blanks around it. -/
def readSigned (cs : List Char) : Option Int :=
  match cs.dropWhile isNumeralBlank with
  | '-' :: rest => (readUnsigned rest).map fun n => -(n : Int)
  | '+' :: rest => (readUnsigned rest).map fun n => (n : Int)
  | rest => (readUnsigned rest).map fun n => (n : Int)

/-- The number that an integer literal writes. Underscores may stand anywhere in it. -/
def readInteger (text : String) : Option Int :=
  readSigned ((text.toList.filter (· ≠ '_')).map numeralChar)

end LocaleKeys.Text

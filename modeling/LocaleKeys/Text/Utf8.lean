/-!
# Text from bytes

Decoding of UTF-8 that never fails: each longest run of bytes that begins a character and does not
complete it becomes one replacement character, and so does each byte that begins none.
-/

namespace LocaleKeys.Text

/-- What stands for bytes that are no character. -/
def replacement : Char := '\ufffd'

/-- May the byte continue a character? -/
def isTail (b : UInt8) : Bool :=
  0x80 ≤ b && b ≤ 0xbf

/-- May the byte `b` follow the first byte `a` of a character of three or four bytes? Shorter forms
exist for the values this excludes, or they are no characters. -/
def isSecond (a b : UInt8) : Bool :=
  if a = 0xe0 then 0xa0 ≤ b && b ≤ 0xbf
  else if a = 0xed then 0x80 ≤ b && b ≤ 0x9f
  else if a = 0xf0 then 0x90 ≤ b && b ≤ 0xbf
  else if a = 0xf4 then 0x80 ≤ b && b ≤ 0x8f
  else isTail b

/-- The character that a first byte with value `lead` and the bytes after it spell. -/
def assemble (lead : Nat) (tails : List UInt8) : Char :=
  Char.ofNat (tails.foldl (fun n b => n * 64 + (b.toNat - 0x80)) lead)

/-- The text that bytes spell, with replacement characters where they spell none. -/
def decode : List UInt8 → List Char
  | [] => []
  | a :: r =>
    if a < 0x80 then Char.ofNat a.toNat :: decode r
    else if 0xc2 ≤ a && a ≤ 0xdf then
      match r with
      | [] => [replacement]
      | b :: r₁ =>
        if isTail b then assemble (a.toNat - 0xc0) [b] :: decode r₁
        else replacement :: decode (b :: r₁)
    else if 0xe0 ≤ a && a ≤ 0xef then
      match r with
      | [] => [replacement]
      | b :: r₁ =>
        if isSecond a b then
          match r₁ with
          | [] => [replacement]
          | c :: r₂ =>
            if isTail c then assemble (a.toNat - 0xe0) [b, c] :: decode r₂
            else replacement :: decode (c :: r₂)
        else replacement :: decode (b :: r₁)
    else if 0xf0 ≤ a && a ≤ 0xf4 then
      match r with
      | [] => [replacement]
      | b :: r₁ =>
        if isSecond a b then
          match r₁ with
          | [] => [replacement]
          | c :: r₂ =>
            if isTail c then
              match r₂ with
              | [] => [replacement]
              | d :: r₃ =>
                if isTail d then assemble (a.toNat - 0xf0) [b, c, d] :: decode r₃
                else replacement :: decode (d :: r₃)
            else replacement :: decode (c :: r₂)
        else replacement :: decode (b :: r₁)
    else replacement :: decode r

/-- The string that bytes spell, with replacement characters where they spell none. -/
def decoded (bytes : List UInt8) : String :=
  String.ofList (decode bytes)

/-- The bytes of a string. -/
def encoded (s : String) : List UInt8 :=
  s.toUTF8.toList

end LocaleKeys.Text

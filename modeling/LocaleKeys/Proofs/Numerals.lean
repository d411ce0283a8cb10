import LocaleKeys.Text.Numeral
import Mathlib.Data.List.TakeWhile

/-!
# Proofs: numerals are read by value

A number can be written in decimal, or in base sixteen, eight or two after a mark, with any number
of zeros behind the mark, in capital and small letters, and with underscores anywhere. Reading gives
the number back, whichever way it was written. Only decimal numerals can be too long for that.
-/

namespace LocaleKeys.Text

variable {base n : Nat} {c : Char} {cs : List Char}

/-! ## Written numbers -/

/-- The marks of bases other than ten. -/
def baseMarks : List (Char × Nat) :=
  [('x', 16), ('X', 16), ('o', 8), ('O', 8), ('b', 2), ('B', 2)]

/-- A numeral for a number, without underscores. -/
inductive Numeral (n : Nat) : List Char → Prop where
  /-- The decimal digits of the number, if there are not too many. -/
  | decimal (hlength : (Nat.toDigits 10 n).length ≤ 4300) : Numeral n (Nat.toDigits 10 n)
  /-- A mark, and behind it zeros and the digits of the number in capital or small letters. -/
  | marked {mark : Char} {base : Nat} {digits : List Char} (hmark : (mark, base) ∈ baseMarks)
      (zeros : Nat) (hdigits : digits.map Char.toLower = Nat.toDigits base n) :
      Numeral n ('0' :: mark :: (List.replicate zeros '0' ++ digits))

/-- A text is a numeral for a number, with underscores put in anywhere. -/
def Writes (text : String) (n : Nat) : Prop := Numeral n (text.toList.filter (· ≠ '_'))

/-! ## Digits -/

theorem digitOf?_digitChar {d : Nat} (h : d < 16) : digitOf? d.digitChar = some d := by
  have hall : ∀ d < 16, digitOf? (Nat.digitChar d) = some d := by decide
  exact hall d h

/-- Capital and small letters are the same digits. -/
theorem digitOf?_toLower (c : Char) : digitOf? c.toLower = digitOf? c := by
  by_cases hcapital : c.val ≥ 'A'.val ∧ c.val ≤ 'Z'.val
  · have hall : ∀ k < 26,
        digitOf? (Char.ofNat (65 + k)).toLower = digitOf? (Char.ofNat (65 + k)) := by
      decide
    have hcode : 65 ≤ c.toNat ∧ c.toNat ≤ 90 := ⟨hcapital.1, hcapital.2⟩
    have hc := hall (c.toNat - 65) (by omega)
    rwa [Nat.add_sub_cancel' hcode.1, Char.ofNat_toNat] at hc
  · have hself : c.toLower = c := dif_neg hcapital
    rw [hself]

theorem toNat_of_isDigitIn (h : isDigitIn base c = true) : 48 ≤ c.toNat ∧ c.toNat ≤ 122 := by
  have hsome : digitOf? c ≠ none := by
    intro hnone
    simp [isDigitIn, hnone] at h
  unfold digitOf? at hsome
  split at hsome
  · rename_i hrange
    have hlow : 48 ≤ c.toNat := hrange.1
    have hhigh : c.toNat ≤ 57 := hrange.2
    omega
  · split at hsome
    · rename_i hrange
      have hlow : 97 ≤ c.toNat := hrange.1
      have hhigh : c.toNat ≤ 122 := hrange.2
      omega
    · split at hsome
      · rename_i hrange
        have hlow : 65 ≤ c.toNat := hrange.1
        have hhigh : c.toNat ≤ 90 := hrange.2
        omega
      · exact absurd rfl hsome

theorem isDigitIn_digitChar {d : Nat} (hd : d < base) (hbase : base ≤ 16) :
    isDigitIn base d.digitChar = true := by
  rw [isDigitIn, digitOf?_digitChar (by omega)]
  simpa using hd

theorem isDigitIn_toLower (c : Char) : isDigitIn base c.toLower = isDigitIn base c := by
  rw [isDigitIn, digitOf?_toLower, isDigitIn]

/-! ## Values -/

theorem valueIn_append_singleton (cs : List Char) (c : Char) :
    valueIn base (cs ++ [c]) = valueIn base cs * base + (digitOf? c).getD 0 := by
  rw [valueIn, valueIn, List.foldl_append, List.foldl_cons, List.foldl_nil]

theorem valueIn_map_toLower (cs : List Char) :
    valueIn base (cs.map Char.toLower) = valueIn base cs := by
  rw [valueIn, valueIn, List.foldl_map]
  simp only [digitOf?_toLower]

theorem valueIn_zeros_append (zeros : Nat) (cs : List Char) :
    valueIn base (List.replicate zeros '0' ++ cs) = valueIn base cs := by
  induction zeros with
  | zero => rfl
  | succ zeros ih =>
    have hzero : 0 * base + (digitOf? '0').getD 0 = 0 := by
      rw [Nat.zero_mul]
      rfl
    rw [List.replicate_succ, List.cons_append, valueIn, List.foldl_cons, hzero]
    exact ih

/-- Digits of a number are digits, and their value is the number. -/
theorem toDigits_spec (hone : 1 < base) (hbase : base ≤ 16) (n : Nat) :
    (∀ c ∈ Nat.toDigits base n, isDigitIn base c = true) ∧
      valueIn base (Nat.toDigits base n) = n := by
  -- the last digit comes off the end
  induction n using Nat.strongRecOn with
  | ind n ih =>
    by_cases hn : n < base
    · rw [Nat.toDigits_of_lt_base hn]
      refine ⟨List.forall_mem_singleton.mpr (isDigitIn_digitChar hn hbase), ?_⟩
      simp [valueIn, digitOf?_digitChar (hn.trans_le hbase)]
    · have hmod : n % base < base := Nat.mod_lt n (by omega)
      obtain ⟨hdigits, hvalue⟩ := ih (n / base) (Nat.div_lt_self (by omega) hone)
      rw [Nat.toDigits_of_base_le hone (by omega)]
      constructor
      · exact List.forall_mem_append.mpr
          ⟨hdigits, List.forall_mem_singleton.mpr (isDigitIn_digitChar hmod hbase)⟩
      · rw [valueIn_append_singleton, hvalue, digitOf?_digitChar (hmod.trans_le hbase)]
        exact Nat.div_add_mod' n base

/-- Only the numeral of zero begins with a zero. -/
theorem head?_toDigits (hn : n ≠ 0) : (Nat.toDigits 10 n).head? ≠ some '0' := by
  induction n using Nat.strongRecOn with
  | ind n ih =>
    by_cases hten : n < 10
    · rw [Nat.toDigits_of_lt_base hten]
      simpa using hn
    · obtain ⟨c, cs, hcs⟩ : ∃ c cs, Nat.toDigits 10 (n / 10) = c :: cs :=
        List.exists_cons_of_ne_nil Nat.toDigits_ne_nil
      have hhead := ih (n / 10) (by omega) (by omega)
      rw [hcs] at hhead
      rw [Nat.toDigits_of_base_le (by decide) (by omega), hcs]
      exact hhead

/-! ## Reading -/

theorem readDigits_of_forall (hne : cs ≠ []) (hdigits : ∀ c ∈ cs, isDigitIn base c = true) :
    readDigits base cs = some cs := by
  have htake : cs.takeWhile (isDigitIn base) = cs := List.takeWhile_eq_self_iff.mpr hdigits
  have hdrop : cs.dropWhile (isDigitIn base) = [] := List.dropWhile_eq_nil_iff.mpr hdigits
  simp [readDigits, htake, hdrop, hne]

theorem readUnsigned_of_head? (h : cs.head? ≠ some '0') : readUnsigned cs = readDecimal cs := by
  unfold readUnsigned
  split
  · exact absurd rfl h
  · rfl

theorem readUnsigned_decimal (hlength : (Nat.toDigits 10 n).length ≤ maxDecimalDigits) :
    readUnsigned (Nat.toDigits 10 n) = some n := by
  obtain ⟨hdigits, hvalue⟩ := toDigits_spec (by decide : 1 < 10) (by decide) n
  by_cases hn : n = 0
  · subst hn
    decide
  · have hhead := head?_toDigits hn
    rw [readUnsigned_of_head? hhead, readDecimal, readDigits_of_forall Nat.toDigits_ne_nil hdigits]
    simp [hvalue, hhead, Nat.not_lt.mpr hlength]

theorem readUnsigned_marked {mark : Char} (hmark : (mark, base) ∈ baseMarks) (cs : List Char) :
    readUnsigned ('0' :: mark :: cs) = (readDigits base cs).map (valueIn base) := by
  simp only [baseMarks, List.mem_cons, Prod.mk.injEq, List.not_mem_nil, or_false] at hmark
  rcases hmark with ⟨rfl, rfl⟩ | ⟨rfl, rfl⟩ | ⟨rfl, rfl⟩ | ⟨rfl, rfl⟩ | ⟨rfl, rfl⟩ | ⟨rfl, rfl⟩ <;>
    rfl

theorem base_of_mem_baseMarks {mark : Char} (hmark : (mark, base) ∈ baseMarks) :
    1 < base ∧ base ≤ 16 ∧ mark.toNat < 127 := by
  have hall : ∀ m ∈ baseMarks, 1 < m.2 ∧ m.2 ≤ 16 ∧ m.1.toNat < 127 := by decide
  exact hall _ hmark

theorem numeralChar_of_lt (h : c.toNat < 127) : numeralChar c = c := if_pos h

theorem numeralChar_of_isDigitIn (h : isDigitIn base c = true) : numeralChar c = c := by
  have hcode := toNat_of_isDigitIn h
  exact numeralChar_of_lt (by omega)

/-- A numeral that begins with a digit has no sign and no blanks before it. -/
theorem readSigned_of_isDigitIn (h : isDigitIn base c = true) (cs : List Char) :
    readSigned (c :: cs) = (readUnsigned (c :: cs)).map fun n => (n : Int) := by
  have hcode : 48 ≤ c.toNat := (toNat_of_isDigitIn h).1
  have hother : ∀ d : Char, d.toNat < 48 → c ≠ d := by
    rintro d hd rfl
    omega
  have hblank : isNumeralBlank c = false := by
    have hreturn : ¬ c ≤ '\r' := by
      intro hle
      have hcode' : c.toNat ≤ 13 := hle
      omega
    simp [isNumeralBlank, hreturn, hother ' ' (by decide)]
  have hdrop : (c :: cs).dropWhile isNumeralBlank = c :: cs := by
    rw [List.dropWhile_cons, hblank]
    rfl
  rw [readSigned, hdrop]
  split
  · rename_i hminus
    exact absurd (List.cons.inj hminus).1 (hother '-' (by decide))
  · rename_i hplus
    exact absurd (List.cons.inj hplus).1 (hother '+' (by decide))
  · rfl

/-! ## Every numeral is read back -/

/-- Behind a mark stand digits of the base, and their value is the number. -/
theorem marked_spec {digits : List Char} (hone : 1 < base) (hbase : base ≤ 16) (zeros : Nat)
    (hdigits : digits.map Char.toLower = Nat.toDigits base n) :
    (∀ c ∈ List.replicate zeros '0' ++ digits, isDigitIn base c = true) ∧
      readDigits base (List.replicate zeros '0' ++ digits) =
        some (List.replicate zeros '0' ++ digits) ∧
      valueIn base (List.replicate zeros '0' ++ digits) = n := by
  obtain ⟨hall, hvalue⟩ := toDigits_spec hone hbase n
  have hzero : isDigitIn base '0' = true := isDigitIn_digitChar (by omega : 0 < base) hbase
  -- the digits are told by their small letters
  have hdigit : ∀ c ∈ digits, isDigitIn base c = true := by
    intro c hc
    rw [← isDigitIn_toLower]
    exact hall _ (hdigits ▸ List.mem_map_of_mem hc)
  have hboth : ∀ c ∈ List.replicate zeros '0' ++ digits, isDigitIn base c = true := by
    refine List.forall_mem_append.mpr ⟨fun c hc => ?_, hdigit⟩
    rw [List.eq_of_mem_replicate hc]
    exact hzero
  have hne : List.replicate zeros '0' ++ digits ≠ [] := by
    intro hnil
    have hempty : Nat.toDigits base n = [] := by
      rw [← hdigits, (List.append_eq_nil_iff.mp hnil).2, List.map_nil]
    exact Nat.toDigits_ne_nil hempty
  refine ⟨hboth, readDigits_of_forall hne hboth, ?_⟩
  rw [valueIn_zeros_append, ← valueIn_map_toLower, hdigits, hvalue]

namespace Numeral

theorem exists_cons (h : Numeral n cs) : ∃ c rest, cs = c :: rest ∧ isDigitIn 10 c = true := by
  cases h with
  | decimal =>
    obtain ⟨c, rest, hcs⟩ : ∃ c rest, Nat.toDigits 10 n = c :: rest :=
      List.exists_cons_of_ne_nil Nat.toDigits_ne_nil
    exact ⟨c, rest, hcs, (toDigits_spec (by decide) (by decide) n).1 c (by simp [hcs])⟩
  | marked => exact ⟨'0', _, rfl, by decide⟩

/-- The characters of a numeral stand for themselves. -/
theorem map_numeralChar (h : Numeral n cs) : cs.map numeralChar = cs := by
  have hself : ∀ c ∈ cs, numeralChar c = c := by
    cases h with
    | decimal =>
      intro c hc
      exact numeralChar_of_isDigitIn ((toDigits_spec (by decide) (by decide) n).1 c hc)
    | marked hmark zeros hdigits =>
      obtain ⟨hone, hbase, hlt⟩ := base_of_mem_baseMarks hmark
      obtain ⟨hall, -⟩ := marked_spec hone hbase zeros hdigits
      refine List.forall_mem_cons.mpr ⟨by decide, List.forall_mem_cons.mpr ⟨?_, fun c hc => ?_⟩⟩
      · exact numeralChar_of_lt hlt
      · exact numeralChar_of_isDigitIn (hall c hc)
  rw [List.map_congr_left hself, List.map_id']

theorem readUnsigned_eq (h : Numeral n cs) : readUnsigned cs = some n := by
  cases h with
  | decimal hlength => exact readUnsigned_decimal hlength
  | marked hmark zeros hdigits =>
    obtain ⟨hone, hbase, -⟩ := base_of_mem_baseMarks hmark
    obtain ⟨-, hread, hvalue⟩ := marked_spec hone hbase zeros hdigits
    rw [readUnsigned_marked hmark, hread, Option.map_some, hvalue]

end Numeral

/-- A number is read back, however it is written. -/
theorem readInteger_of_writes {text : String} (h : Writes text n) :
    readInteger text = some (n : Int) := by
  obtain ⟨c, rest, hcs, hc⟩ := h.exists_cons
  rw [readInteger, h.map_numeralChar, hcs, readSigned_of_isDigitIn hc, ← hcs, h.readUnsigned_eq]
  rfl

end LocaleKeys.Text

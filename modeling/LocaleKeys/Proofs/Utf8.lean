import LocaleKeys.Text.Utf8
import Mathlib.Data.List.TakeWhile

/-!
# Proofs: text from bytes

Decoding goes on from one character to the next: it takes a first byte with the bytes after it that
belong to the same character. So it never looks past a byte that is a character of its own, and
bytes can be decoded in parts that begin with one. What was encoded is decoded again.
-/

namespace LocaleKeys.Text

/-! ## One character after another -/

/-- How many bytes follow the first byte of a character. -/
def tailCount (a : UInt8) : Nat :=
  if 0xc2 ≤ a && a ≤ 0xdf then 1
  else if 0xe0 ≤ a && a ≤ 0xef then 2
  else if 0xf0 ≤ a && a ≤ 0xf4 then 3
  else 0

/-- What the first byte adds to the value of a character. -/
def leadValue (a : UInt8) : Nat :=
  if tailCount a = 1 then a.toNat - 0xc0
  else if tailCount a = 2 then a.toNat - 0xe0
  else a.toNat - 0xf0

/-- The bytes that belong to the same character as the byte before them. -/
def tailsOf (a : UInt8) (r : List UInt8) : List UInt8 :=
  match r.take (tailCount a) with
  | [] => []
  | b :: bs => if isSecond a b then b :: bs.takeWhile isTail else []

/-- The character that a first byte and the bytes after it spell, or else what stands for one. -/
def firstChar (a : UInt8) (r : List UInt8) : Char :=
  if a < 0x80 then Char.ofNat a.toNat
  else if tailCount a ≠ 0 && (tailsOf a r).length = tailCount a then
    assemble (leadValue a) (tailsOf a r)
  else replacement

@[simp]
theorem decode_nil : decode [] = [] := by
  rw [decode.eq_def]

section Cons

variable {a : UInt8} (r : List UInt8)

theorem decode_cons_of_one (ha : ¬ a < 0x80) (h : (0xc2 ≤ a && a ≤ 0xdf) = true) :
    decode (a :: r) = firstChar a r :: decode (r.drop (tailsOf a r).length) := by
  have hcount : tailCount a = 1 := by rw [tailCount, if_pos h]
  have hsecond : ∀ b, isSecond a b = isTail b := by
    intro b
    simp only [Bool.and_eq_true, decide_eq_true_eq, UInt8.le_iff_toNat_le, UInt8.reduceToNat] at h
    simp only [isSecond, ← UInt8.toNat_inj, UInt8.reduceToNat]
    rw [if_neg (by omega), if_neg (by omega), if_neg (by omega), if_neg (by omega)]
  rw [decode.eq_def]
  rcases r with _ | ⟨b, r⟩
  · simp [ha, h, firstChar, tailsOf, hcount]
  · by_cases hb : isTail b = true <;>
      simp [ha, h, firstChar, tailsOf, hcount, leadValue, hsecond, hb]

theorem decode_cons_of_two (ha : ¬ a < 0x80) (h₁ : ¬ (0xc2 ≤ a && a ≤ 0xdf) = true)
    (h : (0xe0 ≤ a && a ≤ 0xef) = true) :
    decode (a :: r) = firstChar a r :: decode (r.drop (tailsOf a r).length) := by
  have hcount : tailCount a = 2 := by rw [tailCount, if_neg h₁, if_pos h]
  rw [decode.eq_def]
  rcases r with _ | ⟨b, _ | ⟨c, r⟩⟩
  · simp [ha, h₁, h, firstChar, tailsOf, hcount]
  · by_cases hb : isSecond a b = true <;> simp [ha, h₁, h, firstChar, tailsOf, hcount, hb]
  · by_cases hb : isSecond a b = true <;> by_cases hc : isTail c = true <;>
      simp [ha, h₁, h, firstChar, tailsOf, hcount, leadValue, hb, hc]

theorem decode_cons_of_three (ha : ¬ a < 0x80) (h₁ : ¬ (0xc2 ≤ a && a ≤ 0xdf) = true)
    (h₂ : ¬ (0xe0 ≤ a && a ≤ 0xef) = true) (h : (0xf0 ≤ a && a ≤ 0xf4) = true) :
    decode (a :: r) = firstChar a r :: decode (r.drop (tailsOf a r).length) := by
  have hcount : tailCount a = 3 := by rw [tailCount, if_neg h₁, if_neg h₂, if_pos h]
  rw [decode.eq_def]
  rcases r with _ | ⟨b, _ | ⟨c, _ | ⟨d, r⟩⟩⟩
  · simp [ha, h₁, h₂, h, firstChar, tailsOf, hcount]
  · by_cases hb : isSecond a b = true <;> simp [ha, h₁, h₂, h, firstChar, tailsOf, hcount, hb]
  · by_cases hb : isSecond a b = true <;> by_cases hc : isTail c = true <;>
      simp [ha, h₁, h₂, h, firstChar, tailsOf, hcount, hb, hc]
  · by_cases hb : isSecond a b = true <;> by_cases hc : isTail c = true <;>
      by_cases hd : isTail d = true <;>
        simp [ha, h₁, h₂, h, firstChar, tailsOf, hcount, leadValue, hb, hc, hd]

theorem tailCount_of_lt (ha : a < 0x80) : tailCount a = 0 := by
  simp only [UInt8.lt_iff_toNat_lt, UInt8.reduceToNat] at ha
  simp only [tailCount, UInt8.le_iff_toNat_le, UInt8.reduceToNat, Bool.and_eq_true,
    decide_eq_true_eq]
  rw [if_neg (by omega), if_neg (by omega), if_neg (by omega)]

/-- Decoding takes the first character and goes on after its bytes. -/
theorem decode_cons (a : UInt8) (r : List UInt8) :
    decode (a :: r) = firstChar a r :: decode (r.drop (tailsOf a r).length) := by
  by_cases ha : a < 0x80
  · rw [decode.eq_def]
    simp [ha, firstChar, tailsOf, tailCount_of_lt ha]
  by_cases h₁ : (0xc2 ≤ a && a ≤ 0xdf) = true
  · exact decode_cons_of_one r ha h₁
  by_cases h₂ : (0xe0 ≤ a && a ≤ 0xef) = true
  · exact decode_cons_of_two r ha h₁ h₂
  by_cases h₃ : (0xf0 ≤ a && a ≤ 0xf4) = true
  · exact decode_cons_of_three r ha h₁ h₂ h₃
  · have hcount : tailCount a = 0 := by rw [tailCount, if_neg h₁, if_neg h₂, if_neg h₃]
    rw [decode.eq_def]
    simp [ha, h₁, h₂, h₃, firstChar, tailsOf, hcount]

end Cons

/-! ## Parts -/

/-- The character that a byte is by itself. -/
def charOf (b : UInt8) : Char := Char.ofNat b.toNat

/-- Is the byte a character of its own? -/
def isAscii (b : UInt8) : Bool := b < 0x80

theorem isTail_of_isAscii {b : UInt8} (h : isAscii b = true) : isTail b = false := by
  simp only [isAscii, decide_eq_true_eq, UInt8.lt_iff_toNat_lt, UInt8.reduceToNat] at h
  simp only [isTail, UInt8.le_iff_toNat_le, UInt8.reduceToNat, Bool.and_eq_false_iff,
    decide_eq_false_iff_not]
  omega

theorem isSecond_of_isAscii (a : UInt8) {b : UInt8} (h : isAscii b = true) :
    isSecond a b = false := by
  have htail := isTail_of_isAscii h
  simp only [isAscii, decide_eq_true_eq, UInt8.lt_iff_toNat_lt, UInt8.reduceToNat] at h
  simp only [isSecond, UInt8.le_iff_toNat_le, UInt8.reduceToNat, htail]
  grind

theorem length_tailsOf_le (a : UInt8) (r : List UInt8) : (tailsOf a r).length ≤ r.length := by
  unfold tailsOf
  cases hr : r.take (tailCount a) with
  | nil => simp
  | cons b bs =>
    have hlength : bs.length + 1 ≤ r.length := by
      rw [← List.length_cons, ← hr]
      exact List.length_take_le' _ _
    have htails := (List.takeWhile_sublist isTail (l := bs)).length_le
    dsimp only
    split <;> simp only [List.length_cons, List.length_nil] <;> omega

/-- A byte that is a character of its own belongs to no character before it. -/
theorem tailsOf_append (a : UInt8) (r : List UInt8) {ys : List UInt8}
    (h : ∀ b ∈ ys.head?, isAscii b = true) : tailsOf a (r ++ ys) = tailsOf a r := by
  unfold tailsOf
  rw [List.take_append]
  cases hys : ys.take (tailCount a - r.length) with
  | nil => rw [List.append_nil]
  | cons z zs =>
    have hz : isAscii z = true := by
      refine h z ?_
      have hhead := congrArg List.head? hys
      rw [List.head?_take] at hhead
      split at hhead
      · cases hhead
      · exact hhead
    cases r.take (tailCount a) with
    | nil => simp [isSecond_of_isAscii a hz]
    | cons b bs =>
      have htails : (bs ++ z :: zs).takeWhile isTail = bs.takeWhile isTail := by
        rw [List.takeWhile_append]
        split
        · rename_i hall
          simp [isTail_of_isAscii hz, (List.takeWhile_prefix isTail).eq_of_length hall]
        · rfl
      simp only [List.cons_append, htails]

/-- Bytes are decoded in parts, if the second one begins with a character of its own. -/
theorem decode_append (xs : List UInt8) {ys : List UInt8} (h : ∀ b ∈ ys.head?, isAscii b = true) :
    decode (xs ++ ys) = decode xs ++ decode ys := by
  induction hlength : xs.length using Nat.strongRecOn generalizing xs with
  | ind n ih =>
    cases xs with
    | nil => simp
    | cons a r =>
      subst hlength
      have hle := length_tailsOf_le a r
      have hshorter : (r.drop (tailsOf a r).length).length < (a :: r).length := by
        rw [List.length_drop, List.length_cons]
        omega
      have hrest := ih _ hshorter (r.drop (tailsOf a r).length) rfl
      rw [List.cons_append, decode_cons, decode_cons, tailsOf_append a r h,
        List.drop_append_of_le_length hle, hrest, List.cons_append]
      simp only [firstChar, tailsOf_append a r h]

/-- Bytes that are characters of their own are decoded one by one. -/
theorem decode_append_of_isAscii {xs : List UInt8} (h : ∀ b ∈ xs, isAscii b = true)
    (ys : List UInt8) :
    decode (xs ++ ys) = xs.map charOf ++ decode ys := by
  induction xs with
  | nil => rfl
  | cons b xs ih =>
    obtain ⟨hb, hxs⟩ := List.forall_mem_cons.mp h
    have hlt : b < 0x80 := of_decide_eq_true hb
    have htails : tailsOf b (xs ++ ys) = [] := by simp [tailsOf, tailCount_of_lt hlt]
    rw [List.cons_append, decode_cons, htails, firstChar, if_pos hlt, List.length_nil,
      List.drop_zero, ih hxs, List.map_cons, List.cons_append, charOf]

/-! ## What was encoded -/

theorem tailsOf_eq {a b : UInt8} {bs : List UInt8} (r : List UInt8)
    (hcount : tailCount a = bs.length + 1) (hb : isSecond a b = true)
    (hbs : ∀ c ∈ bs, isTail c = true) : tailsOf a (b :: bs ++ r) = b :: bs := by
  have htake : (b :: bs ++ r).take (tailCount a) = b :: bs := by
    rw [hcount, ← List.length_cons (a := b), List.take_left]
  simp only [tailsOf, htake, hb, if_true, List.takeWhile_eq_self_iff.mpr hbs]

/-- The bytes of one character are decoded to it. -/
theorem decode_character {a b : UInt8} (bs r : List UInt8)
    (hcount : tailCount a = bs.length + 1) (hb : isSecond a b = true)
    (hbs : ∀ c ∈ bs, isTail c = true) :
    decode (a :: b :: bs ++ r) = assemble (leadValue a) (b :: bs) :: decode r := by
  have ha : ¬ a < 0x80 := by
    intro ha
    rw [tailCount_of_lt ha] at hcount
    cases hcount
  have htails := tailsOf_eq r hcount hb hbs
  rw [List.cons_append, decode_cons, htails, firstChar, if_neg ha, htails]
  simp [hcount]

theorem isTail_ofNat (n : Nat) : isTail (UInt8.ofNat (n % 0x40 + 0x80)) = true := by
  have hbyte : (UInt8.ofNat (n % 0x40 + 0x80)).toNat = n % 0x40 + 0x80 :=
    UInt8.toNat_ofNat_of_lt' (show n % 0x40 + 0x80 < 256 by omega)
  simp only [isTail, UInt8.le_iff_toNat_le, UInt8.reduceToNat, hbyte, Bool.and_eq_true,
    decide_eq_true_eq]
  omega

/-- A character with a small value is a byte. -/
theorem decode_of_le_7f {v : Nat} (hv : v ≤ 0x7f) (r : List UInt8) :
    decode (UInt8.ofNat v :: r) = Char.ofNat v :: decode r := by
  have hbyte : (UInt8.ofNat v).toNat = v := UInt8.toNat_ofNat_of_lt' (show v < 256 by omega)
  have ha : UInt8.ofNat v < 0x80 := by
    rw [UInt8.lt_iff_toNat_lt, hbyte]
    simp only [UInt8.reduceToNat]
    omega
  rw [decode_cons, firstChar, if_pos ha, hbyte]
  simp [tailsOf, tailCount_of_lt ha]

theorem decode_of_le_7ff {v : Nat} (hlow : 0x7f < v) (hhigh : v ≤ 0x7ff) (r : List UInt8) :
    decode (UInt8.ofNat (v / 64 % 0x20 + 0xc0) :: UInt8.ofNat (v % 0x40 + 0x80) :: r) =
      Char.ofNat v :: decode r := by
  have ha : (UInt8.ofNat (v / 64 % 0x20 + 0xc0)).toNat = v / 64 % 0x20 + 0xc0 :=
    UInt8.toNat_ofNat_of_lt' (show _ < 256 by omega)
  have hb : (UInt8.ofNat (v % 0x40 + 0x80)).toNat = v % 0x40 + 0x80 :=
    UInt8.toNat_ofNat_of_lt' (show _ < 256 by omega)
  have htail := isTail_ofNat v
  generalize UInt8.ofNat (v / 64 % 0x20 + 0xc0) = a at *
  generalize UInt8.ofNat (v % 0x40 + 0x80) = b at *
  have hcount : tailCount a = 1 := by
    simp only [tailCount, UInt8.le_iff_toNat_le, UInt8.reduceToNat, Bool.and_eq_true,
      decide_eq_true_eq, ha]
    rw [if_pos (by omega)]
  have hsecond : isSecond a b = true := by
    simp only [isSecond, ← UInt8.toNat_inj, UInt8.reduceToNat, ha]
    rw [if_neg (by omega), if_neg (by omega), if_neg (by omega), if_neg (by omega)]
    exact htail
  have hvalue : (a.toNat - 0xc0) * 64 + (b.toNat - 0x80) = v := by omega
  have hdecode := decode_character [] r hcount hsecond (List.forall_mem_nil _)
  simpa [assemble, leadValue, hcount, hvalue] using hdecode

theorem decode_of_le_ffff {v : Nat} (hlow : 0x7ff < v) (hhigh : v ≤ 0xffff)
    (hvalid : v < 0xd800 ∨ 0xdfff < v) (r : List UInt8) :
    decode (UInt8.ofNat (v / 4096 % 0x10 + 0xe0) :: UInt8.ofNat (v / 64 % 0x40 + 0x80) ::
        UInt8.ofNat (v % 0x40 + 0x80) :: r) =
      Char.ofNat v :: decode r := by
  have ha : (UInt8.ofNat (v / 4096 % 0x10 + 0xe0)).toNat = v / 4096 % 0x10 + 0xe0 :=
    UInt8.toNat_ofNat_of_lt' (show _ < 256 by omega)
  have hb : (UInt8.ofNat (v / 64 % 0x40 + 0x80)).toNat = v / 64 % 0x40 + 0x80 :=
    UInt8.toNat_ofNat_of_lt' (show _ < 256 by omega)
  have hc : (UInt8.ofNat (v % 0x40 + 0x80)).toNat = v % 0x40 + 0x80 :=
    UInt8.toNat_ofNat_of_lt' (show _ < 256 by omega)
  have hsecondTail := isTail_ofNat (v / 64)
  have hthirdTail := isTail_ofNat v
  generalize UInt8.ofNat (v / 4096 % 0x10 + 0xe0) = a at *
  generalize UInt8.ofNat (v / 64 % 0x40 + 0x80) = b at *
  generalize UInt8.ofNat (v % 0x40 + 0x80) = c at *
  have hcount : tailCount a = 2 := by
    simp only [tailCount, UInt8.le_iff_toNat_le, UInt8.reduceToNat, Bool.and_eq_true,
      decide_eq_true_eq, ha]
    rw [if_neg (by omega), if_pos (by omega)]
  have hsecond : isSecond a b = true := by
    simp only [isSecond, UInt8.le_iff_toNat_le, ← UInt8.toNat_inj, UInt8.reduceToNat, ha, hb,
      hsecondTail]
    split_ifs <;> simp <;> omega
  have hvalue : ((a.toNat - 0xe0) * 64 + (b.toNat - 0x80)) * 64 + (c.toNat - 0x80) = v := by omega
  have hdecode := decode_character [c] r hcount hsecond (by simpa using hthirdTail)
  simpa [assemble, leadValue, hcount, hvalue] using hdecode

theorem decode_of_le_10ffff {v : Nat} (hlow : 0xffff < v) (hhigh : v < 0x110000)
    (r : List UInt8) :
    decode (UInt8.ofNat (v / 262144 % 0x08 + 0xf0) :: UInt8.ofNat (v / 4096 % 0x40 + 0x80) ::
        UInt8.ofNat (v / 64 % 0x40 + 0x80) :: UInt8.ofNat (v % 0x40 + 0x80) :: r) =
      Char.ofNat v :: decode r := by
  have ha : (UInt8.ofNat (v / 262144 % 0x08 + 0xf0)).toNat = v / 262144 % 0x08 + 0xf0 :=
    UInt8.toNat_ofNat_of_lt' (show _ < 256 by omega)
  have hb : (UInt8.ofNat (v / 4096 % 0x40 + 0x80)).toNat = v / 4096 % 0x40 + 0x80 :=
    UInt8.toNat_ofNat_of_lt' (show _ < 256 by omega)
  have hc : (UInt8.ofNat (v / 64 % 0x40 + 0x80)).toNat = v / 64 % 0x40 + 0x80 :=
    UInt8.toNat_ofNat_of_lt' (show _ < 256 by omega)
  have hd : (UInt8.ofNat (v % 0x40 + 0x80)).toNat = v % 0x40 + 0x80 :=
    UInt8.toNat_ofNat_of_lt' (show _ < 256 by omega)
  have hsecondTail := isTail_ofNat (v / 4096)
  have hthirdTail := isTail_ofNat (v / 64)
  have hfourthTail := isTail_ofNat v
  generalize UInt8.ofNat (v / 262144 % 0x08 + 0xf0) = a at *
  generalize UInt8.ofNat (v / 4096 % 0x40 + 0x80) = b at *
  generalize UInt8.ofNat (v / 64 % 0x40 + 0x80) = c at *
  generalize UInt8.ofNat (v % 0x40 + 0x80) = d at *
  have hcount : tailCount a = 3 := by
    simp only [tailCount, UInt8.le_iff_toNat_le, UInt8.reduceToNat, Bool.and_eq_true,
      decide_eq_true_eq, ha]
    rw [if_neg (by omega), if_neg (by omega), if_pos (by omega)]
  have hsecond : isSecond a b = true := by
    simp only [isSecond, UInt8.le_iff_toNat_le, ← UInt8.toNat_inj, UInt8.reduceToNat, ha, hb,
      hsecondTail]
    split_ifs <;> simp <;> omega
  have hvalue : (((a.toNat - 0xf0) * 64 + (b.toNat - 0x80)) * 64 + (c.toNat - 0x80)) * 64 +
      (d.toNat - 0x80) = v := by omega
  have hdecode := decode_character [c, d] r hcount hsecond
    (by simp [hthirdTail, hfourthTail])
  simpa [assemble, leadValue, hcount, hvalue] using hdecode

/-- The bytes of a character are decoded to it, whatever follows. -/
theorem decode_encodeChar (c : Char) (r : List UInt8) :
    decode (String.utf8EncodeChar c ++ r) = c :: decode r := by
  have hvalid : c.val.toNat < 0xd800 ∨ 0xdfff < c.val.toNat ∧ c.val.toNat < 0x110000 := c.valid
  have hc : Char.ofNat c.val.toNat = c := Char.ofNat_toNat c
  rw [String.utf8EncodeChar]
  generalize c.val.toNat = v at *
  rw [← hc]
  by_cases h₁ : v ≤ 0x7f
  · rw [if_pos h₁]
    exact decode_of_le_7f h₁ r
  by_cases h₂ : v ≤ 0x7ff
  · rw [if_neg h₁, if_pos h₂]
    exact decode_of_le_7ff (by omega) h₂ r
  by_cases h₃ : v ≤ 0xffff
  · rw [if_neg h₁, if_neg h₂, if_pos h₃]
    exact decode_of_le_ffff (by omega) h₃ (by omega) r
  · rw [if_neg h₁, if_neg h₂, if_neg h₃]
    exact decode_of_le_10ffff (by omega) (by omega) r

theorem loop_toList (bs : ByteArray) (i : Nat) (r : List UInt8) :
    ByteArray.toList.loop bs i r = r.reverse ++ bs.data.toList.drop i := by
  fun_induction ByteArray.toList.loop bs i r with
  | case1 i r h ih =>
    have hi : i < bs.data.toList.length := by simpa using h
    rw [ih, List.drop_eq_getElem_cons hi]
    simp [ByteArray.get!, h]
  | case2 i r h =>
    rw [List.drop_eq_nil_of_le (by simpa using Nat.le_of_not_lt h), List.append_nil]

/-- The bytes of a string are those of its characters. -/
theorem encoded_eq (s : String) : encoded s = s.toList.flatMap String.utf8EncodeChar := by
  rw [encoded, String.toUTF8_eq_toByteArray, ← String.utf8Encode_toList, ByteArray.toList,
    loop_toList, List.utf8Encode, List.toList_data_toByteArray]
  rfl

/-- What was encoded is decoded again. -/
theorem decode_encoded (s : String) : decode (encoded s) = s.toList := by
  rw [encoded_eq]
  induction s.toList with
  | nil => simp
  | cons c cs ih => rw [List.flatMap_cons, decode_encodeChar, ih]

@[simp]
theorem decoded_encoded (s : String) : decoded (encoded s) = s := by
  rw [decoded, decode_encoded, String.ofList_toList]

end LocaleKeys.Text

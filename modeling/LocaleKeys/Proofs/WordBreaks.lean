import LocaleKeys.Name
import Mathlib.Data.List.TakeWhile

/-!
# Proofs: where names are broken into words

A name is broken in two passes, each of which looks for its breaks from the left and goes on behind
what it has found. But whether there is a break between two characters depends on these two and the
one after them only: no break is missed because an earlier one has used up its characters, and no
place is broken twice.
-/

namespace LocaleKeys.Name

/-! ## Kinds of characters -/

theorem isCapital_iff {c : Char} : isCapital c = true ↔ 65 ≤ c.toNat ∧ c.toNat ≤ 90 := by
  simp only [isCapital, Bool.and_eq_true, decide_eq_true_eq]
  exact Iff.rfl

theorem isSmall_iff {c : Char} : isSmall c = true ↔ 97 ≤ c.toNat ∧ c.toNat ≤ 122 := by
  simp only [isSmall, Bool.and_eq_true, decide_eq_true_eq]
  exact Iff.rfl

/-- No letter is a digit, of any script. -/
theorem isDigit_eq_false {c : Char} (hlow : 65 ≤ c.toNat) (hhigh : c.toNat ≤ 122) :
    Text.isDigit c = false := by
  have hzeros : ∀ z ∈ Text.digitZeros, z + 10 ≤ 65 ∨ 122 < z := by decide
  rw [Text.isDigit, List.any_eq_false]
  intro z hz
  have := hzeros z hz
  simp only [Bool.and_eq_true, decide_eq_true_eq]
  omega

/-- A capital ends no word. -/
theorem isWordEnd_of_isCapital {c : Char} (h : isCapital c = true) : isWordEnd c = false := by
  obtain ⟨hlow, hhigh⟩ := isCapital_iff.mp h
  have hsmall : isSmall c = false := by
    rw [Bool.eq_false_iff]
    intro hsmall
    have := isSmall_iff.mp hsmall
    omega
  rw [isWordEnd, hsmall, isDigit_eq_false hlow (by omega)]
  rfl

/-- A small letter stands in no acronym. -/
theorem isAcronymChar_of_isSmall {c : Char} (h : isSmall c = true) : isAcronymChar c = false := by
  obtain ⟨hlow, hhigh⟩ := isSmall_iff.mp h
  have hcapital : isCapital c = false := by
    rw [Bool.eq_false_iff]
    intro hcapital
    have := isCapital_iff.mp hcapital
    omega
  rw [isAcronymChar, hcapital, isDigit_eq_false (by omega) hhigh]
  rfl

theorem isAcronymChar_of_isCapital {c : Char} (h : isCapital c = true) :
    isAcronymChar c = true := by
  rw [isAcronymChar, h]
  rfl

/-- What may stand in an acronym is no small letter. -/
theorem isSmall_of_isAcronymChar {c : Char} (h : isAcronymChar c = true) : isSmall c = false := by
  by_contra hsmall
  rw [isAcronymChar_of_isSmall (Bool.not_eq_false _ ▸ hsmall)] at h
  cases h

/-! ## Breaks by a rule -/

/-- A text with an underscore after every character at which a rule breaks it. The rule is told the
character and what follows it. -/
def brokenBy (rule : Char → List Char → Bool) : List Char → List Char
  | [] => []
  | c :: cs => if rule c cs then c :: '_' :: brokenBy rule cs else c :: brokenBy rule cs

/-- A capital letter follows the end of a word. -/
def endsWord (c : Char) (after : List Char) : Bool :=
  isWordEnd c && after.head?.any isCapital

/-- A capital letter with a small one after it follows the end of an acronym. -/
def endsAcronym (c : Char) (after : List Char) : Bool :=
  isAcronymChar c && after.head?.any isCapital && after.tail.head?.any isSmall

variable {rule : Char → List Char → Bool}

theorem brokenBy_cons_of_false {c : Char} {cs : List Char} (h : rule c cs = false) :
    brokenBy rule (c :: cs) = c :: brokenBy rule cs := by
  rw [brokenBy, h]
  rfl

theorem brokenBy_cons_of_true {c : Char} {cs : List Char} (h : rule c cs = true) :
    brokenBy rule (c :: cs) = c :: '_' :: brokenBy rule cs := by
  rw [brokenBy, if_pos h]

theorem head?_brokenBy (rule : Char → List Char → Bool) (cs : List Char) :
    (brokenBy rule cs).head? = cs.head? := by
  cases cs with
  | nil => rfl
  | cons c cs =>
    rw [brokenBy]
    split <;> rfl

/-! ## The first pass -/

/-- What an acronym at the start of a text is. -/
theorem of_acronym? {cs : List Char} {a : Acronym} (h : acronym? cs = some a) :
    cs = a.front ++ a.capital :: a.small :: a.rest ∧ a.front ≠ [] ∧
      (∀ c ∈ a.front, isAcronymChar c = true) ∧ isCapital a.capital = true ∧
      isSmall a.small = true := by
  unfold acronym? at h
  split at h
  · rename_i capital c front small rest hrun hrest
    split at h
    · rename_i hletters
      cases h
      have hrun' : cs.takeWhile isAcronymChar = (c :: front).reverse ++ [capital] := by
        rw [← List.reverse_reverse (cs.takeWhile isAcronymChar), hrun]
        simp
      have hcs : cs = (c :: front).reverse ++ capital :: small :: rest := by
        rw [← List.takeWhile_append_dropWhile (p := isAcronymChar) (l := cs), hrun', hrest]
        simp
      have hall : ∀ d ∈ (c :: front).reverse, isAcronymChar d = true := by
        intro d hd
        refine List.mem_takeWhile_imp (l := cs) ?_
        rw [hrun']
        exact List.mem_append_left _ hd
      obtain ⟨hcapital, hsmall⟩ := Bool.and_eq_true_iff.mp hletters
      exact ⟨hcs, by simp, hall, hcapital, hsmall⟩
    · cases h
  · cases h

/-- The end of an acronym begins one: the acronym of this character alone. -/
theorem acronym?_ne_none {c : Char} {cs : List Char} (h : endsAcronym c cs = true) :
    acronym? (c :: cs) ≠ none := by
  rw [endsAcronym, Bool.and_eq_true, Bool.and_eq_true] at h
  obtain ⟨⟨hc, hcapital⟩, hsmall⟩ := h
  obtain ⟨d, rest, rfl⟩ : ∃ d rest, cs = d :: rest := by
    cases cs with
    | nil => cases hcapital
    | cons d rest => exact ⟨d, rest, rfl⟩
  obtain ⟨e, rest, rfl⟩ : ∃ e rest', rest = e :: rest' := by
    cases rest with
    | nil => cases hsmall
    | cons e rest => exact ⟨e, rest, rfl⟩
  have hd : isCapital d = true := hcapital
  have he : isSmall e = true := hsmall
  simp [acronym?, hc, isAcronymChar_of_isCapital hd, isAcronymChar_of_isSmall he, hd, he]

/-- An acronym with the word after it is broken once, behind the acronym. -/
theorem brokenBy_endsAcronym_append {front rest : List Char} {capital small : Char}
    (hne : front ≠ []) (hfront : ∀ c ∈ front, isAcronymChar c = true)
    (hcapital : isCapital capital = true) (hsmall : isSmall small = true) :
    brokenBy endsAcronym (front ++ capital :: small :: rest) =
      front ++ '_' :: capital :: small :: brokenBy endsAcronym rest := by
  have hword : brokenBy endsAcronym (capital :: small :: rest) =
      capital :: small :: brokenBy endsAcronym rest := by
    have hnot : isCapital small = false := by
      by_contra hsmall'
      have := isAcronymChar_of_isCapital (Bool.not_eq_false _ ▸ hsmall')
      rw [isAcronymChar_of_isSmall hsmall] at this
      cases this
    rw [brokenBy_cons_of_false (by simp [endsAcronym, hnot]),
      brokenBy_cons_of_false (by simp [endsAcronym, isAcronymChar_of_isSmall hsmall])]
  induction front with
  | nil => exact absurd rfl hne
  | cons c front ih =>
    obtain ⟨hc, hfront⟩ := List.forall_mem_cons.mp hfront
    cases front with
    | nil =>
      have hends : endsAcronym c (capital :: small :: rest) = true := by
        simp [endsAcronym, hc, hcapital, hsmall]
      rw [List.singleton_append, brokenBy_cons_of_true hends, hword]
      rfl
    | cons d front =>
      -- two characters on there is still a character of the acronym, or the capital after it
      have hlater : ((d :: front) ++ capital :: small :: rest).tail.head?.any isSmall = false := by
        cases front with
        | nil => simpa using isSmall_of_isAcronymChar (isAcronymChar_of_isCapital hcapital)
        | cons e front => simpa using isSmall_of_isAcronymChar (hfront e (by simp))
      have hnot : endsAcronym c ((d :: front) ++ capital :: small :: rest) = false := by
        rw [endsAcronym, hlater, Bool.and_false]
      rw [List.cons_append, brokenBy_cons_of_false hnot, ih (by simp) hfront]
      rfl

/-- The first pass breaks a name behind every acronym that a capitalised word follows. -/
theorem breakAcronyms_eq (cs : List Char) : breakAcronyms cs = brokenBy endsAcronym cs := by
  induction hlength : cs.length using Nat.strongRecOn generalizing cs with
  | ind n ih =>
    cases cs with
    | nil =>
      rw [breakAcronyms]
      rfl
    | cons c cs =>
      subst hlength
      rw [breakAcronyms]
      split
      · rename_i a ha
        obtain ⟨hcs, hne, hfront, hcapital, hsmall⟩ := of_acronym? ha
        rw [hcs, brokenBy_endsAcronym_append hne hfront hcapital hsmall,
          ih _ (Acronym.rest_length_lt ha) a.rest rfl]
      · rename_i hnone
        have hnot : endsAcronym c cs = false := by
          by_contra hends
          exact acronym?_ne_none (Bool.not_eq_false _ ▸ hends) hnone
        rw [brokenBy_cons_of_false hnot, ih _ (Nat.lt_succ_self _) cs rfl]

/-! ## The second pass -/

/-- The second pass breaks a name before every capital that follows the end of a word. -/
theorem breakWords_eq (cs : List Char) : breakWords cs = brokenBy endsWord cs := by
  fun_induction breakWords cs with
  | case1 c d rest h ih =>
    have hd : isCapital d = true := (Bool.and_eq_true_iff.mp h).2
    have hnot : endsWord d rest = false := by
      rw [endsWord, isWordEnd_of_isCapital hd]
      rfl
    rw [brokenBy_cons_of_true h, brokenBy_cons_of_false hnot, ih]
  | case2 c d rest h ih =>
    rw [brokenBy_cons_of_false (Bool.eq_false_iff.mpr h), ih]
  | case3 cs h =>
    match cs with
    | [] => rfl
    | [c] =>
      have hlast : endsWord c [] = false := by simp [endsWord]
      exact (brokenBy_cons_of_false hlast).symm
    | c :: d :: rest => exact absurd rfl (h c d rest)

/-- The second pass finds in a name with breaks what it finds in the name itself: a break stands
before a capital, but it is no end of a word. -/
theorem brokenBy_endsWord_brokenBy (rule : Char → List Char → Bool) (cs : List Char) :
    brokenBy endsWord (brokenBy rule cs) =
      brokenBy (fun c after => endsWord c after || rule c after) cs := by
  induction cs with
  | nil => rfl
  | cons c cs ih =>
    by_cases hrule : rule c cs = true
    · have hc : endsWord c ('_' :: brokenBy rule cs) = false := by
        have hbreak : isCapital '_' = false := by decide
        simp [endsWord, hbreak]
      have hbreak : endsWord '_' (brokenBy rule cs) = false := by
        have hbreak : isWordEnd '_' = false := by decide
        rw [endsWord, hbreak, Bool.false_and]
      rw [brokenBy_cons_of_true hrule, brokenBy_cons_of_false hc, brokenBy_cons_of_false hbreak, ih,
        brokenBy_cons_of_true (by rw [hrule, Bool.or_true])]
    · rw [Bool.not_eq_true] at hrule
      have hsame : endsWord c (brokenBy rule cs) = endsWord c cs := by
        rw [endsWord, head?_brokenBy, endsWord]
      rw [brokenBy_cons_of_false hrule]
      by_cases hword : endsWord c cs = true
      · rw [brokenBy_cons_of_true (hsame.trans hword), ih,
          brokenBy_cons_of_true (by rw [hword, Bool.true_or])]
      · rw [Bool.not_eq_true] at hword
        rw [brokenBy_cons_of_false (hsame.trans hword), ih,
          brokenBy_cons_of_false (by rw [hword, hrule, Bool.or_false])]

/-! ## Breaks by place -/

/-- Does a word end at a place, with a capital at the next one? -/
def endsWordAt (cs : List Char) (i : Nat) : Bool :=
  cs[i]?.any isWordEnd && cs[i + 1]?.any isCapital

/-- Does an acronym end at a place, with a capital and a small letter at the next ones? -/
def endsAcronymAt (cs : List Char) (i : Nat) : Bool :=
  cs[i]?.any isAcronymChar && cs[i + 1]?.any isCapital && cs[i + 2]?.any isSmall

/-- A text with an underscore between some places and the next ones. -/
def brokenAt (isBreak : Nat → Bool) (cs : List Char) : List Char :=
  cs.zipIdx.flatMap fun (c, i) => if isBreak i then [c, '_'] else [c]

/-- What a rule says about a character and what follows it is said about places. -/
theorem brokenBy_eq_brokenAt {isBreak : Nat → Bool} (cs : List Char)
    (h : ∀ i c, cs[i]? = some c → isBreak i = rule c (cs.drop (i + 1))) :
    brokenBy rule cs = brokenAt isBreak cs := by
  have hfrom : ∀ rest number, (∀ i c, rest[i]? = some c →
      isBreak (number + i) = rule c (rest.drop (i + 1))) →
      brokenBy rule rest =
        (rest.zipIdx number).flatMap fun (c, i) => if isBreak i then [c, '_'] else [c] := by
    intro rest
    induction rest with
    | nil => exact fun _ _ => rfl
    | cons c rest ih =>
      intro number hrest
      have hc : isBreak number = rule c rest := hrest 0 c rfl
      have hlater := ih (number + 1) fun i d hd => by
        rw [Nat.add_assoc, Nat.add_comm 1 i]
        exact hrest (i + 1) d hd
      rw [brokenBy, List.zipIdx_cons, List.flatMap_cons, ← hlater, ← hc]
      cases hbreak : isBreak number <;> simp [hbreak]
  refine hfrom cs 0 fun i c hc => ?_
  rw [Nat.zero_add]
  exact h i c hc

theorem endsWordAt_eq {cs : List Char} {i : Nat} {c : Char} (h : cs[i]? = some c) :
    endsWordAt cs i = endsWord c (cs.drop (i + 1)) := by
  rw [endsWordAt, endsWord, h, List.head?_drop]
  rfl

theorem endsAcronymAt_eq {cs : List Char} {i : Nat} {c : Char} (h : cs[i]? = some c) :
    endsAcronymAt cs i = endsAcronym c (cs.drop (i + 1)) := by
  rw [endsAcronymAt, endsAcronym, h, List.head?_drop, List.tail_drop, List.head?_drop]
  rfl

/-- **The key segment of a name is found place by place.** Both passes break a name exactly where
their rule says, wherever else it is broken, and one after the other they break it once at every
place where one of the rules says so. Then dashes become underscores, all other characters stay, and
the whole is put in small letters. -/
theorem underscore_place_by_place (name : String) :
    (∀ cs, breakAcronyms cs = brokenAt (endsAcronymAt cs) cs) ∧
    (∀ cs, breakWords cs = brokenAt (endsWordAt cs) cs) ∧
    underscore name =
      String.ofList (Text.lower ((brokenAt
        (fun i => endsWordAt name.toList i || endsAcronymAt name.toList i)
        name.toList).map fun c => if c = '-' then '_' else c)) := by
  refine ⟨fun cs => ?_, fun cs => ?_, ?_⟩
  · rw [breakAcronyms_eq, brokenBy_eq_brokenAt cs fun i c => endsAcronymAt_eq]
  · rw [breakWords_eq, brokenBy_eq_brokenAt cs fun i c => endsWordAt_eq]
  · have hplaces : breakWords (breakAcronyms name.toList) =
        brokenAt (fun i => endsWordAt name.toList i || endsAcronymAt name.toList i)
          name.toList := by
      rw [breakAcronyms_eq, breakWords_eq, brokenBy_endsWord_brokenBy]
      refine brokenBy_eq_brokenAt name.toList fun i c hc => ?_
      rw [endsWordAt_eq hc, endsAcronymAt_eq hc]
    rw [underscore, hplaces]
    rfl

example : underscore "HTML5Parser-V1Api" = "html5_parser_v1_api" := by decide +kernel

end LocaleKeys.Name

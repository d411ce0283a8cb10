import LocaleKeys.Proofs.HintLines
import Mathlib.Data.List.TakeWhile

/-!
# Proofs: which comments are hints

A comment is a hint if it has this form: number signs, blanks, the marker, blanks again and an
expression. The search for it goes back to fewer number signs and fewer blanks where more of them do
not lead on. For a marker that begins with neither, going back never helps, and a line has the form
in one way only.
-/

namespace LocaleKeys.Hint

/-! ## Runs of characters -/

section Runs

variable {p : Char → Bool} {run rest : List Char}

theorem takeWhile_run (hrun : ∀ c ∈ run, p c = true) (hrest : ∀ c ∈ rest.head?, p c = false) :
    (run ++ rest).takeWhile p = run := by
  rw [List.takeWhile_append_of_pos hrun]
  cases rest with
  | nil => simp
  | cons c rest => simp [hrest c rfl]

theorem dropWhile_run (hrun : ∀ c ∈ run, p c = true) (hrest : ∀ c ∈ rest.head?, p c = false) :
    (run ++ rest).dropWhile p = rest := by
  rw [List.dropWhile_append_of_pos hrun]
  cases rest with
  | nil => rfl
  | cons c rest => simp [hrest c rfl]

/-- Where a run ends, something else begins. -/
theorem head?_dropWhile (cs : List Char) : ∀ c ∈ (cs.dropWhile p).head?, p c = false := by
  intro c hc
  have hnot := List.head?_dropWhile_not p cs
  rw [Option.mem_def.mp hc] at hnot
  simpa using hnot

end Runs

/-! ## The form of a hint -/

/-- A marker begins with a character that does not stand before it. -/
def IsMarker (marker : List Char) : Prop :=
  ∃ c rest, marker = c :: rest ∧ c ≠ '#' ∧ Text.isBlank c = false

/-- An expression begins with a character that is not blank. -/
def IsExpression (expression : List Char) : Prop :=
  ∃ c rest, expression = c :: rest ∧ Text.isBlank c = false

/-- A line is made of number signs, a gap, the marker, blanks and an expression. -/
structure Form (marker line signs gap blanks expression : List Char) : Prop where
  /-- The line is made of these. -/
  line_eq : line = signs ++ (gap ++ (marker ++ (blanks ++ expression)))
  /-- There is a number sign, -/
  signs_ne_nil : signs ≠ []
  /-- and nothing but number signs. -/
  signs_eq : ∀ c ∈ signs, c = '#'
  /-- The gap is blank. -/
  gap_blank : ∀ c ∈ gap, Text.isBlank c = true
  /-- Something blank follows the marker, -/
  blanks_ne_nil : blanks ≠ []
  /-- and nothing else before the expression. -/
  blanks_blank : ∀ c ∈ blanks, Text.isBlank c = true
  /-- There is an expression. -/
  isExpression : IsExpression expression

/-- Is the character a number sign? -/
def isSign (c : Char) : Bool := c = '#'

theorem isSign_iff {c : Char} : isSign c = true ↔ c = '#' := decide_eq_true_iff

theorem isSign_eq_false_iff {c : Char} : isSign c = false ↔ c ≠ '#' := decide_eq_false_iff_not

theorem IsExpression.head? {expression : List Char} (h : IsExpression expression) :
    ∀ c ∈ expression.head?, Text.isBlank c = false := by
  obtain ⟨c, rest, rfl, hc⟩ := h
  simpa using hc

/-! ## The search -/

/-- What follows a marker at the start of a text. -/
def atMarker? (marker cs : List Char) : Option (Option (List Char)) :=
  if marker.isPrefixOf cs then afterMarker? (cs.drop marker.length) else none

theorem atMarker?_append (marker cs : List Char) :
    atMarker? marker (marker ++ cs) = afterMarker? cs := by
  rw [atMarker?, if_pos (by simp), List.drop_left]

section Marker

variable {marker : List Char} (hmarker : IsMarker marker)
include hmarker

theorem IsMarker.head?_append (rest : List Char) :
    ∀ c ∈ (marker ++ rest).head?, c ≠ '#' ∧ Text.isBlank c = false := by
  obtain ⟨c, tail, rfl, hc⟩ := hmarker
  simpa using hc

/-- Neither a gap nor a marker begins with a number sign. -/
theorem IsMarker.isSign_head? {gap : List Char} (hgap : ∀ c ∈ gap, Text.isBlank c = true)
    (rest : List Char) : ∀ c ∈ (gap ++ (marker ++ rest)).head?, isSign c = false := by
  cases gap with
  | nil => exact fun c hc => isSign_eq_false_iff.mpr (hmarker.head?_append rest c hc).1
  | cons g gap =>
    intro c hc
    obtain rfl : g = c := by simpa using hc
    rw [isSign_eq_false_iff]
    rintro rfl
    exact absurd (hgap '#' List.mem_cons_self) (by decide)

theorem atMarker?_eq_none {c : Char} {cs : List Char} (hc : c = '#' ∨ Text.isBlank c = true) :
    atMarker? marker (c :: cs) = none := by
  obtain ⟨m, tail, rfl, hsign, hblank⟩ := hmarker
  have hne : m ≠ c := by
    rintro rfl
    rcases hc with hc | hc
    · exact hsign hc
    · rw [hblank] at hc
      cases hc
  rw [atMarker?, if_neg (by simp [List.isPrefixOf, hne])]

/-- Fewer blanks before the marker do not help. -/
theorem afterBlanks?_eq (cs : List Char) :
    afterBlanks? marker cs = atMarker? marker (cs.dropWhile Text.isBlank) := by
  induction cs with
  | nil =>
    obtain ⟨m, tail, rfl, -⟩ := hmarker
    rfl
  | cons c cs ih =>
    by_cases hc : Text.isBlank c = true
    · have hnone : atMarker? marker (c :: cs) = none := atMarker?_eq_none hmarker (.inr hc)
      rw [afterBlanks?, if_pos hc, List.dropWhile_cons_of_pos hc, ih]
      cases atMarker? marker (cs.dropWhile Text.isBlank) with
      | some found => rfl
      | none => exact hnone
    · rw [afterBlanks?, if_neg hc, List.dropWhile_cons_of_neg hc]
      rfl

/-- Fewer number signs do not help either. -/
theorem afterSigns?_eq (cs : List Char) :
    afterSigns? marker ('#' :: cs) =
      atMarker? marker ((cs.dropWhile isSign).dropWhile Text.isBlank) := by
  induction cs with
  | nil =>
    have hnone : afterSigns? marker [] = none := by
      rw [afterSigns?]
      simp
    rw [afterSigns?, hnone]
    exact afterBlanks?_eq hmarker []
  | cons c cs ih =>
    by_cases hc : c = '#'
    · subst hc
      have hnone : afterBlanks? marker ('#' :: cs) = none := by
        rw [afterBlanks?_eq hmarker, List.dropWhile_cons_of_neg (by decide)]
        exact atMarker?_eq_none hmarker (.inl rfl)
      rw [afterSigns?, ih, List.dropWhile_cons_of_pos (by rfl)]
      cases atMarker? marker ((cs.dropWhile isSign).dropWhile Text.isBlank) with
      | some found => rfl
      | none => exact hnone
    · have hnone : afterSigns? marker (c :: cs) = none := by
        rw [afterSigns?]
        intro rest h
        exact absurd (List.cons.inj h).1 hc
      rw [afterSigns?, hnone, List.dropWhile_cons_of_neg (by simpa [isSign] using hc)]
      exact afterBlanks?_eq hmarker (c :: cs)

/-- What the search finds behind number signs, a gap and the marker. -/
theorem afterSigns?_of_parts {signs gap : List Char} (hne : signs ≠ [])
    (hsigns : ∀ c ∈ signs, c = '#') (hgap : ∀ c ∈ gap, Text.isBlank c = true) (rest : List Char) :
    afterSigns? marker (signs ++ (gap ++ (marker ++ rest))) = afterMarker? rest := by
  cases signs with
  | nil => exact absurd rfl hne
  | cons sign signs =>
    obtain ⟨rfl, htail⟩ := List.forall_mem_cons.mp hsigns
    have hblank : ∀ c ∈ (marker ++ rest).head?, Text.isBlank c = false :=
      fun c hc => (hmarker.head?_append rest c hc).2
    rw [List.cons_append, afterSigns?_eq hmarker,
      dropWhile_run (fun c hc => isSign_iff.mpr (htail c hc)) (hmarker.isSign_head? hgap rest),
      dropWhile_run hgap hblank, atMarker?_append]

end Marker

/-- What follows the marker is an expression exactly if blanks come first and something after
them. -/
theorem afterMarker?_eq_some_iff {cs expression : List Char} :
    afterMarker? cs = some (some expression) ↔
      cs.takeWhile Text.isBlank ≠ [] ∧ cs.dropWhile Text.isBlank = expression ∧
        expression ≠ [] := by
  cases cs with
  | nil => simp [afterMarker?]
  | cons c cs =>
    rw [afterMarker?]
    cases (c :: cs).takeWhile Text.isBlank with
    | nil => simp
    | cons b blanks =>
      cases (c :: cs).dropWhile Text.isBlank with
      | nil => simp
      | cons d rest =>
        simp only [Option.some.injEq, ne_eq, reduceCtorEq, not_false_eq_true, true_and]
        exact ⟨fun h => ⟨h, h ▸ by simp⟩, fun h => h.1⟩

theorem afterMarker?_of_parts {blanks expression : List Char} (hne : blanks ≠ [])
    (hblanks : ∀ c ∈ blanks, Text.isBlank c = true) (hexpression : IsExpression expression) :
    afterMarker? (blanks ++ expression) = some (some expression) := by
  rw [afterMarker?_eq_some_iff, takeWhile_run hblanks hexpression.head?,
    dropWhile_run hblanks hexpression.head?]
  obtain ⟨c, rest, rfl, -⟩ := hexpression
  exact ⟨hne, rfl, by simp⟩

theorem exists_parts_of_afterMarker? {cs expression : List Char}
    (h : afterMarker? cs = some (some expression)) :
    ∃ blanks, blanks ≠ [] ∧ (∀ c ∈ blanks, Text.isBlank c = true) ∧ IsExpression expression ∧
      cs = blanks ++ expression := by
  obtain ⟨hblanks, rfl, hne⟩ := afterMarker?_eq_some_iff.mp h
  refine ⟨_, hblanks, fun c hc => List.mem_takeWhile_imp hc, ?_,
    List.takeWhile_append_dropWhile.symm⟩
  have hhead : ∀ c ∈ (cs.dropWhile Text.isBlank).head?, Text.isBlank c = false :=
    head?_dropWhile cs
  obtain ⟨c, rest, hcs⟩ := List.exists_cons_of_ne_nil hne
  rw [hcs] at hhead ⊢
  exact ⟨c, rest, rfl, hhead c rfl⟩

/-! ## The lines with a hint -/

theorem afterSigns?_eq_none {marker line : List Char} (h : line.head? ≠ some '#') :
    afterSigns? marker line = none := by
  rw [afterSigns?]
  rintro rest rfl
  exact h rfl

section Form

variable {marker line expression : List Char} (hmarker : IsMarker marker)
include hmarker

theorem Form.of_afterSigns? (h : afterSigns? marker line = some (some expression)) :
    ∃ signs gap blanks, Form marker line signs gap blanks expression := by
  by_cases hline : line.head? = some '#'
  · obtain ⟨cs, rfl⟩ := List.head?_eq_some_iff.mp hline
    rw [afterSigns?_eq hmarker, atMarker?] at h
    by_cases hstart : marker.isPrefixOf ((cs.dropWhile isSign).dropWhile Text.isBlank) = true
    · obtain ⟨rest, hrest⟩ := List.isPrefixOf_iff_prefix.mp hstart
      rw [if_pos hstart, ← hrest, List.drop_left] at h
      obtain ⟨blanks, hne, hblanks, hexpression, rfl⟩ := exists_parts_of_afterMarker? h
      refine ⟨'#' :: cs.takeWhile isSign, (cs.dropWhile isSign).takeWhile Text.isBlank, blanks,
        ?_, by simp, ?_, fun c hc => List.mem_takeWhile_imp hc, hne, hblanks, hexpression⟩
      · rw [hrest, List.takeWhile_append_dropWhile, List.cons_append,
          List.takeWhile_append_dropWhile]
      · intro c hc
        rcases List.mem_cons.mp hc with rfl | hc
        · rfl
        · exact isSign_iff.mp (List.mem_takeWhile_imp hc)
    · rw [if_neg hstart] at h
      cases h
  · rw [afterSigns?_eq_none hline] at h
    cases h

theorem Form.afterSigns? {signs gap blanks : List Char}
    (h : Form marker line signs gap blanks expression) :
    afterSigns? marker line = some (some expression) := by
  rw [h.line_eq, afterSigns?_of_parts hmarker h.signs_ne_nil h.signs_eq h.gap_blank,
    afterMarker?_of_parts h.blanks_ne_nil h.blanks_blank h.isExpression]

/-- A line has the form of a hint in one way only. -/
theorem Form.unique {expression' signs gap blanks signs' gap' blanks' : List Char}
    (h : Form marker line signs gap blanks expression)
    (h' : Form marker line signs' gap' blanks' expression') :
    signs = signs' ∧ gap = gap' ∧ blanks = blanks' ∧ expression = expression' := by
  have hline := h.line_eq.symm.trans h'.line_eq
  have hsigns : signs = signs' := by
    have htake := congrArg (List.takeWhile isSign) hline
    rwa [takeWhile_run (fun c hc => isSign_iff.mpr (h.signs_eq c hc))
        (hmarker.isSign_head? h.gap_blank _),
      takeWhile_run (fun c hc => isSign_iff.mpr (h'.signs_eq c hc))
        (hmarker.isSign_head? h'.gap_blank _)] at htake
  subst hsigns
  have hrest := List.append_cancel_left hline
  have hgap : gap = gap' := by
    have htake := congrArg (List.takeWhile Text.isBlank) hrest
    rwa [takeWhile_run h.gap_blank fun c hc => (hmarker.head?_append _ c hc).2,
      takeWhile_run h'.gap_blank fun c hc => (hmarker.head?_append _ c hc).2] at htake
  subst hgap
  have htail := List.append_cancel_left (List.append_cancel_left hrest)
  have hblanks : blanks = blanks' := by
    have htake := congrArg (List.takeWhile Text.isBlank) htail
    rwa [takeWhile_run h.blanks_blank h.isExpression.head?,
      takeWhile_run h'.blanks_blank h'.isExpression.head?] at htake
  subst hblanks
  exact ⟨rfl, rfl, rfl, List.append_cancel_left htail⟩

theorem afterSigns?_eq_some_iff :
    afterSigns? marker line = some (some expression) ↔
      ∃ signs gap blanks, Form marker line signs gap blanks expression :=
  ⟨Form.of_afterSigns? hmarker, fun ⟨_, _, _, h⟩ => h.afterSigns? hmarker⟩

end Form

theorem expression?_eq_some_iff {marker line expression : String} :
    expression? marker line = some expression ↔
      afterSigns? marker.toList line.toList = some (some expression.toList) := by
  rw [expression?, Option.map_eq_some_iff]
  constructor
  · rintro ⟨cs, hcs, rfl⟩
    obtain ⟨found, hfound, hid⟩ := Option.bind_eq_some_iff.mp hcs
    rw [hfound, String.toList_ofList, ← hid]
    rfl
  · intro h
    exact ⟨expression.toList, by rw [h]; rfl, String.ofList_toList⟩

/-- What is found in a line is what is found in its expression, also where it is no comment. -/
theorem ofLine_eq (parse : Ast.Parser) (settings : Settings) (path : String) (number : Nat)
    (line : String) :
    ofLine parse settings path number line =
      ((expression? settings.marker (Text.trimmed line)).map
        (ofExpression parse settings path number)).getD [] := by
  rw [ofLine]
  by_cases hcomment : lineKind line = .comment
  · rw [hcomment]
    cases expression? settings.marker (Text.trimmed line) <;> rfl
  · have hnone : expression? settings.marker (Text.trimmed line) = none := by
      rw [expression?, afterSigns?_eq_none fun h => hcomment (lineKind_eq_comment_iff.mpr h)]
      rfl
    rw [hnone]
    cases hkind : lineKind line with
    | comment => exact absurd hkind hcomment
    | blank | code => rfl

/-- **Which comments are hints.** For a marker that begins with neither a number sign nor a blank,
the scan of a line reads an expression exactly if the trimmed line has the form of a hint with this
expression, and a line has that form in one way only. There is no expression where something other
than a blank, or nothing, follows the marker. -/
theorem hint_form_exact (settings : Settings) (line : String)
    (hmarker : IsMarker settings.marker.toList) :
    let marker := settings.marker.toList
    let trimmed := (Text.trimmed line).toList
    (∀ parse path number, ofLine parse settings path number line =
      ((expression? settings.marker (Text.trimmed line)).map
        (ofExpression parse settings path number)).getD []) ∧
    -- an expression is read exactly where there is one
    (∀ expression, expression? settings.marker (Text.trimmed line) = some expression ↔
      ∃ signs gap blanks, Form marker trimmed signs gap blanks expression.toList) ∧
    -- and there is no other one
    (∀ signs gap blanks expression signs' gap' blanks' expression',
      Form marker trimmed signs gap blanks expression →
      Form marker trimmed signs' gap' blanks' expression' →
      signs = signs' ∧ gap = gap' ∧ blanks = blanks' ∧ expression = expression') ∧
    -- the marker alone, or as the beginning of something longer, gives none
    ∀ signs gap rest, signs ≠ [] → (∀ c ∈ signs, c = '#') →
      (∀ c ∈ gap, Text.isBlank c = true) → (∀ c ∈ rest.head?, Text.isBlank c = false) →
      trimmed = signs ++ (gap ++ (marker ++ rest)) →
      expression? settings.marker (Text.trimmed line) = none := by
  intro marker trimmed
  refine ⟨fun parse path number => ofLine_eq parse settings path number line,
    fun expression => expression?_eq_some_iff.trans (afterSigns?_eq_some_iff hmarker),
    fun _ _ _ _ _ _ _ _ => Form.unique hmarker,
    fun signs gap rest hne hsigns hgap hrest hline => ?_⟩
  rw [Option.eq_none_iff_forall_ne_some]
  intro expression h
  have hafter : afterMarker? rest = some (some expression.toList) := by
    rw [← afterSigns?_of_parts hmarker hne hsigns hgap, ← hline]
    exact expression?_eq_some_iff.mp h
  have htake : ([] ++ rest).takeWhile Text.isBlank = [] := takeWhile_run (by simp) hrest
  exact (afterMarker?_eq_some_iff.mp hafter).1 htake

/-- A marker with characters that have a meaning in patterns, and two lines with it. -/
theorem hint_form_exact_starred :
    let settings : Settings := { marker := "uses(.*)" }
    IsMarker settings.marker.toList ∧
      expression? settings.marker (Text.trimmed "  ##uses(.*)\u00a0 t('a.b') # c\t") =
        some "t('a.b') # c" ∧
      expression? settings.marker (Text.trimmed "# uses(.*), t('a.b')") = none := by
  intro settings
  have hmarker : IsMarker settings.marker.toList := ⟨'u', "ses(.*)".toList, by decide +kernel⟩
  have hblank : ['\u00a0', ' '].all Text.isBlank = true := by decide
  refine ⟨hmarker, ?_, ?_⟩
  · obtain ⟨-, hform, -⟩ := hint_form_exact settings "  ##uses(.*)\u00a0 t('a.b') # c\t" hmarker
    refine (hform "t('a.b') # c").mpr ⟨['#', '#'], [], ['\u00a0', ' '], ?_⟩
    exact ⟨by decide +kernel, by simp, by simp, by simp, by simp, List.all_eq_true.mp hblank,
      't', "('a.b') # c".toList, by decide +kernel⟩
  · obtain ⟨-, -, -, hnone⟩ := hint_form_exact settings "# uses(.*), t('a.b')" hmarker
    refine hnone ['#'] [' '] ", t('a.b')".toList (by simp) (by simp) ?_ ?_ (by decide +kernel)
    · exact fun c hc => List.all_eq_true.mp hblank c (List.mem_cons_of_mem _ hc)
    · intro c hc
      obtain rfl : ',' = c := by simpa using hc
      decide

end LocaleKeys.Hint

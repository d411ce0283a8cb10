import LocaleKeys.Proofs.PlainMode

/-!
# Proofs: the lines at which hints stand

A hint waits for a line of code while the lines go by, and what still waits in the end goes back to
the last line of code. Here the place of every hint is told by the lines of the file alone. It
follows that hints come out in the order of these lines.
-/

namespace LocaleKeys.Hint

/-! ## Where a hint belongs -/

/-- Is there a line of code at a place? The trimmed text of such a line is not empty and does not
begin with a number sign. -/
def IsCodeAt (lines : List String) (i : Nat) : Prop :=
  ∃ text, lines[i]? = some text ∧ Text.trimmed text ≠ "" ∧
    (Text.trimmed text).toList.head? ≠ some '#'

/-- A place is the one at which the hints of the line at a place stand. -/
inductive StandsAt (lines : List String) (own : Nat) : Nat → Prop where
  /-- There is the first line of code after that. -/
  | next {i : Nat} (hcode : IsCodeAt lines i) (hafter : own < i)
      (hfirst : ∀ j, IsCodeAt lines j → own < j → i ≤ j) : StandsAt lines own i
  /-- There is no line of code after that, and there is the last one. -/
  | last {i : Nat} (hcode : IsCodeAt lines i) (hnone : ∀ j, IsCodeAt lines j → ¬ own < j)
      (hlast : ∀ j, IsCodeAt lines j → j ≤ i) : StandsAt lines own i
  /-- There is no line of code at all, and it is that place itself. -/
  | own (hnone : ∀ j, ¬ IsCodeAt lines j) : StandsAt lines own own

/-- The hints of the later of two lines do not stand before those of the other one. -/
theorem StandsAt.le {lines : List String} {a b x y : Nat} (hx : StandsAt lines a x)
    (hy : StandsAt lines b y) (hab : a ≤ b) : x ≤ y := by
  cases hx with
  | next hcode hafter hfirst =>
    cases hy with
    | next hcode' hafter' => exact hfirst y hcode' (by omega)
    | last _ _ hlast => exact hlast x hcode
    | own hnone => exact absurd hcode (hnone x)
  | last hcode hnone hlast =>
    cases hy with
    | next hcode' hafter' =>
      have hnot := hnone y hcode'
      omega
    | last _ _ hlast' => exact hlast' x hcode
    | own hnone' => exact absurd hcode (hnone' x)
  | own hnone =>
    cases hy with
    | next hcode' | last hcode' => exact absurd hcode' (hnone y)
    | own => exact hab

/-- Hints stand at one place only. -/
theorem StandsAt.unique {lines : List String} {own x y : Nat} (hx : StandsAt lines own x)
    (hy : StandsAt lines own y) : x = y :=
  Nat.le_antisymm (hx.le hy (Nat.le_refl _)) (hy.le hx (Nat.le_refl _))

/-! ## The place, from the lines alone -/

section Places

variable {lines : List String}

instance (lines : List String) (i : Nat) : Decidable (IsCodeAt lines i) :=
  match h : lines[i]? with
  | none => isFalse fun ⟨_, htext, _⟩ => nomatch h.symm.trans htext
  | some text =>
    decidable_of_iff (Text.trimmed text ≠ "" ∧ (Text.trimmed text).toList.head? ≠ some '#')
      (by simp [IsCodeAt, h])

/-- The places of the lines of code, in order. -/
def codePlaces (lines : List String) : List Nat :=
  (List.range lines.length).filter fun i => IsCodeAt lines i

/-- The place at which the hints of the line at a place stand: the next place of code after that, or
else the last one, or else that place itself. -/
def placeOf (lines : List String) (own : Nat) : Nat :=
  (((codePlaces lines).find? (own < ·)).or (codePlaces lines).getLast?).getD own

theorem mem_codePlaces_iff {i : Nat} : i ∈ codePlaces lines ↔ IsCodeAt lines i := by
  rw [codePlaces, List.mem_filter, List.mem_range, decide_eq_true_iff, and_iff_right_iff_imp]
  rintro ⟨text, htext, -⟩
  exact (List.getElem?_eq_some_iff.mp htext).1

theorem pairwise_codePlaces (lines : List String) : (codePlaces lines).Pairwise (· < ·) :=
  List.pairwise_lt_range.filter _

/-- What is found first in an ordered list is the least. -/
theorem le_of_find? {places : List Nat} (hsorted : places.Pairwise (· < ·)) {p : Nat → Bool}
    {i j : Nat} (hfind : places.find? p = some i) (hj : j ∈ places) (hp : p j = true) : i ≤ j := by
  obtain ⟨-, before, rest, rfl, hbefore⟩ := List.find?_eq_some_iff_append.mp hfind
  rcases List.mem_append.mp hj with hj | hj
  · have hnot := hbefore j hj
    rw [hp] at hnot
    cases hnot
  · rcases List.mem_cons.mp hj with rfl | hj
    · exact Nat.le_refl j
    · have hrest := (List.pairwise_append.mp hsorted).2.1
      exact Nat.le_of_lt ((List.pairwise_cons.mp hrest).1 j hj)

/-- The last of an ordered list is the greatest. -/
theorem le_of_getLast? {places : List Nat} (hsorted : places.Pairwise (· < ·)) {i j : Nat}
    (hlast : places.getLast? = some i) (hj : j ∈ places) : j ≤ i := by
  obtain ⟨before, rfl⟩ := List.getLast?_eq_some_iff.mp hlast
  rcases List.mem_append.mp hj with hj | hj
  · have hbefore := (List.pairwise_append.mp hsorted).2.2 j hj
    exact Nat.le_of_lt (hbefore i (List.mem_singleton_self i))
  · exact Nat.le_of_eq (List.mem_singleton.mp hj)

theorem standsAt_placeOf (lines : List String) (own : Nat) :
    StandsAt lines own (placeOf lines own) := by
  have hsorted := pairwise_codePlaces lines
  rw [placeOf]
  cases hfind : (codePlaces lines).find? (own < ·) with
  | some i =>
    have hcode : IsCodeAt lines i := mem_codePlaces_iff.mp (List.mem_of_find?_eq_some hfind)
    have hafter : own < i := of_decide_eq_true (List.find?_some (p := (own < ·)) hfind)
    refine .next hcode hafter fun j hj hlater => ?_
    exact le_of_find? hsorted hfind (mem_codePlaces_iff.mpr hj) (decide_eq_true hlater)
  | none =>
    have hnone : ∀ j, IsCodeAt lines j → ¬ own < j := by
      intro j hj hlater
      exact List.find?_eq_none.mp hfind j (mem_codePlaces_iff.mpr hj) (decide_eq_true hlater)
    cases hlast : (codePlaces lines).getLast? with
    | some i =>
      have hcode : IsCodeAt lines i := mem_codePlaces_iff.mp (List.mem_of_getLast? hlast)
      refine .last hcode hnone fun j hj => ?_
      exact le_of_getLast? hsorted hlast (mem_codePlaces_iff.mpr hj)
    | none =>
      refine .own fun j hj => ?_
      have hmem := mem_codePlaces_iff.mpr hj
      rw [List.getLast?_eq_none_iff.mp hlast] at hmem
      cases hmem

end Places

/-! ## Lines with their numbers -/

theorem isCode_iff {line : NumberedLine} :
    isCode line = true ↔ Text.trimmed line.text ≠ "" ∧
      (Text.trimmed line.text).toList.head? ≠ some '#' := by
  have htrimmed : (Text.trimmed line.text).toList = Text.trim line.text.toList :=
    String.toList_ofList
  have hempty : Text.trimmed line.text = "" ↔ Text.trim line.text.toList = [] := by
    rw [← htrimmed, String.toList_eq_nil_iff]
  rw [isCode, Ne, hempty, htrimmed, lineKind]
  split
  · simp_all
  · simp_all
  · rename_i h h'
    simp only [decide_true, true_iff]
    refine ⟨h, fun hhead => ?_⟩
    obtain ⟨rest, hrest⟩ := List.head?_eq_some_iff.mp hhead
    exact h' rest hrest

section Numbered

variable (d : Document)

/-- The line at a place, with its number. -/
def lineAt (i : Nat) : NumberedLine := ⟨i + 1, d.lines[i]?.getD ""⟩

theorem numberedLines_eq :
    numberedLines d = d.lines.zipIdx.map fun (text, i) => ⟨i + 1, text⟩ := by
  refine List.ext_getElem? fun i => ?_
  simp [numberedLines, List.getElem?_zipIdx, Function.comp_def, Nat.add_comm]

theorem numberedLines_eq_map_lineAt :
    numberedLines d = (List.range d.lines.length).map (lineAt d) := by
  refine List.ext_getElem (by simp [numberedLines]) fun i hi _ => ?_
  have hi : i < d.lines.length := by simpa [numberedLines] using hi
  simp [numberedLines, lineAt, hi, Nat.add_comm]

theorem isCode_lineAt (i : Nat) : isCode (lineAt d i) = decide (IsCodeAt d.lines i) := by
  rw [Bool.eq_iff_iff, isCode_iff, decide_eq_true_iff, IsCodeAt, lineAt]
  cases d.lines[i]? with
  | none =>
    have hempty : Text.trimmed "" = "" := rfl
    simp [hempty]
  | some text => simp

theorem drop_range (n k : Nat) : (List.range n).drop k = (List.range n).filter (k ≤ ·) := by
  induction n with
  | zero => rw [List.range_zero, List.drop_nil, List.filter_nil]
  | succ n ih =>
    rw [List.range_succ, List.drop_append, List.filter_append, ih, List.length_range]
    by_cases hle : k ≤ n
    · simp [hle, Nat.sub_eq_zero_of_le hle]
    · have hone : 1 ≤ k - n := by omega
      rw [List.drop_of_length_le (by simpa using hone)]
      simp [hle]

/-- The line to which the hints of a line belong is the one at their place. -/
theorem target_lineAt (own : Nat) :
    target (numberedLines d) (lineAt d own) = lineAt d (placeOf d.lines own) := by
  have hcode : isCode ∘ lineAt d = fun i => decide (IsCodeAt d.lines i) :=
    funext (isCode_lineAt d)
  have hnext : ((List.range d.lines.length).drop (own + 1)).find? (isCode ∘ lineAt d) =
      (codePlaces d.lines).find? (own < ·) := by
    rw [drop_range, hcode, codePlaces, List.find?_filter, List.find?_filter]
    simp only [Nat.succ_le_iff, and_comm]
  have hnumber : (lineAt d own).number = own + 1 := rfl
  rw [target, hnumber, numberedLines_eq_map_lineAt, ← List.map_drop, List.find?_map, hnext,
    List.filter_map, hcode, List.getLast?_map, ← Option.map_or, Option.getD_map, placeOf,
    codePlaces]

end Numbered

/-! ## The hints of a file -/

/-- The expression that a line carries, if it is a comment that declares uses of keys. -/
def expressionIn? (settings : Settings) (line : NumberedLine) : Option String :=
  if (Text.trimmed line.text).toList.head? = some '#' then
    expression? settings.marker (Text.trimmed line.text)
  else none

/-- The hints in the expression that a line carries. -/
def hintsIn (parse : Ast.Parser) (settings : Settings) (path : String) (line : NumberedLine) :
    List Hint :=
  match expressionIn? settings line with
  | some expression => hintsOf (ofExpression parse settings path line.number expression)
  | none => []

theorem lineKind_eq_comment_iff {line : String} :
    lineKind line = .comment ↔ (Text.trimmed line).toList.head? = some '#' := by
  have htrimmed : (Text.trimmed line).toList = Text.trim line.toList := String.toList_ofList
  rw [htrimmed, lineKind]
  split
  · simp_all
  · simp_all
  · rename_i h h'
    refine ⟨fun h => (by cases h), fun hhead => ?_⟩
    obtain ⟨rest, hrest⟩ := List.head?_eq_some_iff.mp hhead
    exact absurd hrest (h' rest)

theorem hintsOf_ofLine (parse : Ast.Parser) (settings : Settings) (path : String)
    (line : NumberedLine) :
    hintsOf (ofLine parse settings path line.number line.text) =
      hintsIn parse settings path line := by
  rw [ofLine, hintsIn, expressionIn?]
  by_cases hcomment : lineKind line.text = .comment
  · rw [hcomment, if_pos (lineKind_eq_comment_iff.mp hcomment)]
    cases expression? settings.marker (Text.trimmed line.text) <;> rfl
  · rw [if_neg fun h => hcomment (lineKind_eq_comment_iff.mpr h)]
    cases hkind : lineKind line.text with
    | comment => exact absurd hkind hcomment
    | blank | code => rfl

theorem occurrences_eq_flatMap (parse : Ast.Parser) (settings : Settings) (d : Document) :
    occurrences parse settings d = d.lines.zipIdx.flatMap fun (text, i) =>
      (hintsIn parse settings d.path ⟨i + 1, text⟩).map
        (occurrence d.path (lineAt d (placeOf d.lines i))) := by
  rw [occurrences_eq, verdicts_eq_flatMap, List.flatMap_assoc]
  simp only [flatMap_occurrences_verdictOf, hintsOf_ofLine]
  conv_lhs => rw [numberedLines_eq d, List.flatMap_map, ← numberedLines_eq d]
  refine List.flatMap_congr fun (text, i) hline => ?_
  have htext : d.lines[i]? = some text := List.mem_zipIdx_iff_getElem?.mp hline
  have hown : (⟨i + 1, text⟩ : NumberedLine) = lineAt d i := by
    rw [lineAt, htext, Option.getD_some]
  dsimp only
  rw [hown, target_lineAt]

/-- **Where hints stand.** The lines of a file give their hints one after another, each at the first
line of code after its own line, or else at the last line of code, or else at its own line. So the
lines of the uses never go back. -/
theorem occurrences_by_line (parse : Ast.Parser) (settings : Settings) (d : Document) :
    -- each hint of a line gives one use, with the number, the indentation and the text of a line
    occurrences parse settings d =
        (d.lines.zipIdx.flatMap fun (text, i) =>
          (hintsIn parse settings d.path ⟨i + 1, text⟩).map fun h =>
            let line := d.lines[placeOf d.lines i]?.getD ""
            { key := h.key
              raw := h.raw
              path := d.path
              line := placeOf d.lines i + 1
              column := (line.toList.takeWhile Text.isBlank).length + 1
              text := Text.trimmed line
              default := h.default }) ∧
      -- which is the one that the lines of code around its own line tell
      (∀ own i, StandsAt d.lines own i ↔ i = placeOf d.lines own) ∧
      ((occurrences parse settings d).map (·.line)).Pairwise (· ≤ ·) := by
  have heq := occurrences_eq_flatMap parse settings d
  have hplace := standsAt_placeOf d.lines
  refine ⟨heq, fun own i => ⟨fun h => h.unique (hplace own), fun h => h ▸ hplace own⟩, ?_⟩
  · rw [heq, List.map_flatMap, List.pairwise_flatMap]
    constructor
    · intro line _
      rw [List.map_map, List.pairwise_map]
      exact List.pairwise_of_forall fun _ _ => Nat.le_refl _
    · rw [List.pairwise_iff_getElem]
      intro a b ha hb hab m hm n hn
      rw [List.getElem_zipIdx] at hm hn
      obtain ⟨o, ho, rfl⟩ := List.mem_map.mp hm
      obtain ⟨o', ho', rfl⟩ := List.mem_map.mp hn
      obtain ⟨h, -, rfl⟩ := List.mem_map.mp ho
      obtain ⟨h', -, rfl⟩ := List.mem_map.mp ho'
      have hle := (hplace a).le (hplace b) (Nat.le_of_lt hab)
      simpa [occurrence, lineAt] using hle

/-- A file with hints before its only line of code and after it. -/
def surroundedCode : Document :=
  .ofText "a.rb" "# i18n-tasks-use t('saved')\n\n  run\n# i18n-tasks-use t('home')\n"

/-- The parser that knows the expressions of these hints. -/
def surroundedParser : Ast.Parser :=
  Ast.Parses.parser [(Text.encoded "t('saved')", Scan.lookupAlone "t('saved')"),
    (Text.encoded "t('home')", Scan.lookupAlone "t('home')")]

theorem occurrences_by_line_surrounded :
    StandsAt surroundedCode.lines 0 2 ∧ StandsAt surroundedCode.lines 3 2 ∧
      (occurrences surroundedParser {} surroundedCode).map
          (fun o => (o.key, o.line, o.column, o.text)) =
        [("saved", 3, 3, "run"), ("home", 3, 3, "run")] := by
  obtain ⟨heq, hstands, -⟩ := occurrences_by_line surroundedParser {} surroundedCode
  refine ⟨(hstands 0 2).mpr (by decide +kernel), (hstands 3 2).mpr (by decide +kernel), ?_⟩
  rw [heq]
  decide +kernel

end LocaleKeys.Hint

import LocaleKeys.Proofs.CollectedFiles

/-!
# Proofs: files below roots

A file lies below a root if the names of the root follow one another, without a gap, among the
directories that lead to the file. Names are compared as wholes, and the name of the file itself is
not among them. The parts of a written path are read off name by name, whatever separates the names,
so the text of a path can be followed from one directory to the next.
-/

namespace LocaleKeys

/-! ## Texts cut in two -/

theorem Text.pieces_append_pieces {α : Type} [DecidableEq α] {sep : α} (as bs : List α) :
    pieces sep (as ++ sep :: bs) = pieces sep as ++ pieces sep bs := by
  induction as using induct_pieces sep with
  | last as has => rw [pieces_append_sep has, pieces_of_not_mem has, List.singleton_append]
  | cut as cs has ih =>
    have hassoc : as ++ sep :: cs ++ sep :: bs = as ++ sep :: (cs ++ sep :: bs) := by simp
    rw [hassoc, pieces_append_sep has, pieces_append_sep has, ih, List.cons_append]

namespace Path

variable {path root dir name : String} {roots : List String}

/-! ## The parts of a written path -/

/-- A character that separates the names in a path. -/
def IsSeparator (c : Char) : Prop := c = '/' ∨ c = '\\'

/-- The name of a file or directory. It is not empty, has no separator in it and is not the dot that
stands for the directory itself. -/
structure IsName (name : String) : Prop where
  ne_empty : name ≠ ""
  ne_dot : name ≠ "."
  not_separator : ∀ c ∈ name.toList, ¬ IsSeparator c

/-- The start of a path that leads to a directory: it ends with a separator, or is empty. -/
def IsDirectory (dir : String) : Prop := ∀ c ∈ dir.toList.getLast?, IsSeparator c

/-- A text with a slash for each separator. -/
def slashed (s : String) : List Char := s.toList.map fun c => if c = '\\' then '/' else c

/-- The names between the slashes of a text. -/
def namesIn (cs : List Char) : List String :=
  ((Text.pieces '/' cs).map String.ofList).filter fun name => name ≠ "" && name ≠ "."

/-- The root as a part of a path: only that of exactly two slashes is one. -/
def rootPart (cs : List Char) : List String :=
  if (cs.takeWhile (· = '/')).length = 2 then ["//"] else []

theorem slashed_append (s t : String) : slashed (s ++ t) = slashed s ++ slashed t := by
  simp [slashed]

/-- A name between slashes is neither a dot nor a slash. -/
theorem filter_namesIn (cs : List Char) :
    (namesIn cs).filter (fun part => part ≠ "." && part ≠ "/") = namesIn cs := by
  refine List.filter_eq_self.mpr fun name hname => ?_
  obtain ⟨hmem, htest⟩ := List.mem_filter.mp hname
  obtain ⟨piece, hpiece, rfl⟩ := List.mem_map.mp hmem
  have hslash : String.ofList piece ≠ "/" := by
    intro hslash
    have hchars : piece = ['/'] := by simpa using congrArg String.toList hslash
    exact Text.ne_sep_of_mem_pieces hpiece '/' (hchars ▸ List.mem_singleton_self _) rfl
  have hdot : String.ofList piece ≠ "." := by simpa using (Bool.and_eq_true_iff.mp htest).2
  simp [hdot, hslash]

theorem normalizedParts_eq (s : String) :
    normalizedParts s = rootPart (slashed s) ++ namesIn (slashed s) := by
  have hparts : normalizedParts s =
      (parts ⟨rootOf (slashed s), namesIn (slashed s)⟩).filter
        fun part => part ≠ "." && part ≠ "/" := by
    simp only [normalizedParts, ofString, Text.cut, String.toList_ofList]
    rfl
  rw [hparts, rootOf, rootPart, parts]
  -- a single slash is no part, nor are three or more
  generalize ((slashed s).takeWhile (· = '/')).length = slashes
  dsimp only
  split
  · rw [if_pos rfl, filter_namesIn]
    rfl
  · rw [if_neg (by decide), List.filter_cons, filter_namesIn]
    rfl
  · rename_i hnone htwo
    rw [if_neg (by decide), List.filter_cons, filter_namesIn, if_neg htwo]
    rfl

@[simp]
theorem namesIn_nil : namesIn [] = [] := rfl

/-- Names are read off one after the other. -/
theorem namesIn_append_slash (xs ys : List Char) :
    namesIn (xs ++ '/' :: ys) = namesIn xs ++ namesIn ys := by
  rw [namesIn, Text.pieces_append_pieces, List.map_append, List.filter_append]
  rfl

theorem IsName.slashed_eq (hname : IsName name) : slashed name = name.toList := by
  have hsame : ∀ c ∈ name.toList, (if c = '\\' then '/' else c) = c :=
    fun c hc => if_neg fun h => hname.not_separator c hc (.inr h)
  rw [slashed, List.map_congr_left hsame, List.map_id']

theorem IsName.namesIn_eq (hname : IsName name) : namesIn name.toList = [name] := by
  have hslash : ∀ c ∈ name.toList, c ≠ '/' := fun c hc h => hname.not_separator c hc (.inl h)
  rw [namesIn, Text.pieces_of_not_mem hslash]
  simp [hname.ne_empty, hname.ne_dot]

/-- What follows the separators at the start of a path does not count for its root. -/
theorem IsName.rootPart_append (hname : IsName name) (xs ys : List Char) :
    rootPart (xs ++ (name.toList ++ ys)) = rootPart xs := by
  obtain ⟨c, cs, hcs⟩ : ∃ c cs, name.toList = c :: cs :=
    List.exists_cons_of_ne_nil fun h => hname.ne_empty (by simpa using h)
  have hslash : c ≠ '/' := fun h => hname.not_separator c (by simp [hcs]) (.inl h)
  have hstart : (name.toList ++ ys).takeWhile (· = '/') = [] := by simp [hcs, hslash]
  rw [rootPart, rootPart, List.takeWhile_append, hstart]
  split
  · rename_i hall
    rw [List.append_nil, hall]
  · rfl

theorem IsDirectory.namesIn_append (hdir : IsDirectory dir) (hname : IsName name) :
    namesIn (slashed dir ++ name.toList) = namesIn (slashed dir) ++ [name] := by
  rcases List.eq_nil_or_concat dir.toList with hnil | ⟨front, sep, hfront⟩
  · rw [slashed, hnil]
    exact hname.namesIn_eq
  · have hsep : IsSeparator sep := hdir sep (by simp [hfront])
    have hslashed : slashed dir = front.map (fun c => if c = '\\' then '/' else c) ++ ['/'] := by
      rcases hsep with rfl | rfl <;> simp [slashed, hfront]
    rw [hslashed, List.append_assoc, List.singleton_append, namesIn_append_slash,
      namesIn_append_slash, hname.namesIn_eq, namesIn_nil, List.append_nil]

/-- The parts of a path are those of its directory and its last name. -/
theorem normalizedParts_append (hdir : IsDirectory dir) (hname : IsName name) :
    normalizedParts (dir ++ name) = normalizedParts dir ++ [name] := by
  have hroot := hname.rootPart_append (slashed dir) []
  rw [List.append_nil] at hroot
  rw [normalizedParts_eq, normalizedParts_eq, slashed_append, hname.slashed_eq, hroot,
    hdir.namesIn_append hname, List.append_assoc]

/-- A separator behind the last name changes nothing. -/
theorem normalizedParts_push (hdir : IsDirectory dir) (hname : IsName name) {sep : Char}
    (hsep : IsSeparator sep) :
    normalizedParts ((dir ++ name).push sep) = normalizedParts dir ++ [name] := by
  have hslashed : slashed ((dir ++ name).push sep) = slashed dir ++ name.toList ++ '/' :: [] := by
    rw [← hname.slashed_eq, ← slashed_append]
    rcases hsep with rfl | rfl <;> simp [slashed]
  rw [normalizedParts_eq, normalizedParts_eq, hslashed, namesIn_append_slash, List.append_assoc,
    hname.rootPart_append, hdir.namesIn_append hname, namesIn_nil, List.append_nil,
    List.append_assoc]

/-! ## Names that follow one another -/

/-- The windows of a sequence are all that occurs in it without gaps: none at its ends is left out,
and none reaches over them. -/
theorem occursIn_iff {needle parts : List String} :
    occursIn needle parts = true ↔ needle <:+: parts := by
  simp only [occursIn, List.any_eq_true, List.mem_range, decide_eq_true_eq]
  constructor
  · rintro ⟨start, -, hwindow⟩
    rw [← hwindow]
    exact (List.take_prefix _ _).isInfix.trans (List.drop_suffix _ _).isInfix
  · rintro ⟨before, after, rfl⟩
    refine ⟨before.length, ?_, ?_⟩
    · simp only [List.length_append]
      omega
    · rw [List.append_assoc, List.drop_left, List.take_left]

theorem underRoots_iff : underRoots path roots = true ↔
    roots = [] ∨ ∃ root ∈ roots, normalizedParts root <:+: (normalizedParts path).dropLast := by
  simp only [underRoots, Bool.or_eq_true, List.isEmpty_iff, List.any_eq_true, occursIn_iff]
  refine or_congr_right (exists_congr fun root => and_congr_right fun _ => ?_)
  -- a root without parts, which is let through at once, occurs everywhere
  refine or_iff_right_of_imp fun hnil => ?_
  rw [hnil]
  exact List.nil_infix

theorem underRoots_iff_of_ne_nil (hroots : roots ≠ []) : underRoots path roots = true ↔
    ∃ root ∈ roots, normalizedParts root <:+: (normalizedParts path).dropLast := by
  rw [underRoots_iff, or_iff_right hroots]

theorem not_infix_of_length_lt {needle parts : List String} (h : parts.length < needle.length) :
    ¬ needle <:+: parts := by
  intro hinfix
  have hle := hinfix.length_le
  omega

/-- A root that is longer than the directories of a path adds nothing to other roots. -/
theorem underRoots_append_of_length_lt (hroots : roots ≠ [])
    (h : (normalizedParts path).dropLast.length < (normalizedParts root).length) :
    underRoots path (roots ++ [root]) = underRoots path roots := by
  have hmore : roots ++ [root] ≠ [] := by simp
  have hlong := not_infix_of_length_lt h
  rw [Bool.eq_iff_iff, underRoots_iff_of_ne_nil hmore, underRoots_iff_of_ne_nil hroots]
  constructor
  · rintro ⟨found, hfound, hinfix⟩
    rcases List.mem_append.mp hfound with hfound | hfound
    · exact ⟨found, hfound, hinfix⟩
    · rw [List.mem_singleton.mp hfound] at hinfix
      exact absurd hinfix hlong
  · rintro ⟨found, hfound, hinfix⟩
    exact ⟨found, List.mem_append_left [root] hfound, hinfix⟩

/-- **Roots match whole directories.** A file lies below roots if there are none, or if the parts of
one of them follow one another among the directories of the file. So every part of that root is the
whole name of a directory, and the name of the file makes no difference. A root that is longer than
the directories never matches, and more roots never take a match away. -/
theorem roots_matched_whole (path : String) (roots : List String) :
    let directories := (normalizedParts path).dropLast
    (underRoots path roots = true ↔ roots = [] ∨ ∃ root ∈ roots, normalizedParts root = [] ∨
      ∃ before after, directories = before ++ normalizedParts root ++ after) ∧
    (roots ≠ [] → underRoots path roots = true →
      ∃ root ∈ roots, ∀ part ∈ normalizedParts root, part ∈ directories) ∧
    (∀ dir name, IsDirectory dir → IsName name →
      normalizedParts (dir ++ name) = normalizedParts dir ++ [name] ∧
      (∀ sep, IsSeparator sep →
        normalizedParts ((dir ++ name).push sep) = normalizedParts dir ++ [name]) ∧
      (underRoots (dir ++ name) roots = true ↔
        roots = [] ∨ ∃ root ∈ roots, normalizedParts root <:+: normalizedParts dir)) ∧
    (∀ root, directories.length < (normalizedParts root).length →
      underRoots path [root] = false ∧
      (roots ≠ [] → underRoots path (roots ++ [root]) = underRoots path roots)) ∧
    ∀ more, roots ≠ [] → roots ⊆ more →
      underRoots path roots = true → underRoots path more = true := by
  intro directories
  refine ⟨?_, fun hroots hunder => ?_, fun dir name hdir hname => ?_, fun root hlong => ?_,
    fun more hroots hsubset hunder => ?_⟩
  · rw [underRoots_iff]
    refine or_congr_right (exists_congr fun root => and_congr_right fun _ => ?_)
    constructor
    · rintro ⟨before, after, hparts⟩
      exact .inr ⟨before, after, hparts.symm⟩
    · rintro (hnil | ⟨before, after, hparts⟩)
      · rw [hnil]
        exact List.nil_infix
      · exact ⟨before, after, hparts.symm⟩
  · obtain ⟨root, hroot, hinfix⟩ := (underRoots_iff_of_ne_nil hroots).mp hunder
    exact ⟨root, hroot, fun part hpart => hinfix.subset hpart⟩
  · have hparts := normalizedParts_append hdir hname
    refine ⟨hparts, fun sep hsep => normalizedParts_push hdir hname hsep, ?_⟩
    rw [underRoots_iff, hparts, List.dropLast_concat]
  · refine ⟨?_, fun hroots => underRoots_append_of_length_lt hroots hlong⟩
    rw [← Bool.not_eq_true, underRoots_iff_of_ne_nil (List.cons_ne_nil root [])]
    rintro ⟨found, hfound, hinfix⟩
    rw [List.mem_singleton.mp hfound] at hinfix
    exact not_infix_of_length_lt hlong hinfix
  · obtain ⟨root, hroot, hinfix⟩ := (underRoots_iff_of_ne_nil hroots).mp hunder
    exact underRoots_iff.mpr (.inr ⟨root, hsubset hroot, hinfix⟩)

theorem roots_matched_whole_controllers :
    let dir := "//srv\\app/./controllers/"
    let path := dir ++ "events_controller.rb"
    normalizedParts path = ["//", "srv", "app", "controllers", "events_controller.rb"] ∧
    underRoots path ["lib", "app\\controllers/"] = true ∧
    underRoots path ["lib", "spec", "app\\controllers/"] = true ∧
    underRoots path ["controller"] = false ∧ underRoots path ["events_controller.rb"] = false ∧
    underRoots path ["srv/app/controllers/admin/events"] = false := by
  intro dir path
  have hdir : IsDirectory dir := by
    have hlast : dir.toList.getLast? = some '/' := by decide
    rw [IsDirectory, hlast]
    rintro c ⟨⟩
    exact .inl rfl
  have hname : IsName "events_controller.rb" := ⟨by decide, by decide, by simp [IsSeparator]⟩
  have hparts : normalizedParts path =
      ["//", "srv", "app", "controllers", "events_controller.rb"] :=
    ((roots_matched_whole path []).2.2.1 dir _ hdir hname).1.trans (by decide +kernel)
  have hmatch : underRoots path ["lib", "app\\controllers/"] = true :=
    (roots_matched_whole path _).1.mpr (.inr ⟨"app\\controllers/", by simp, .inr
      ⟨["//", "srv"], [], by rw [hparts]; decide +kernel⟩⟩)
  -- neither a part of a name nor the name of the file is among the directories
  have hother : ∀ root, (∃ part ∈ normalizedParts root,
      part ∉ ["//", "srv", "app", "controllers"]) → underRoots path [root] = false := by
    rintro root ⟨part, hpart, hnot⟩
    by_contra htrue
    obtain ⟨found, hfound, hall⟩ := (roots_matched_whole path [root]).2.1 (by simp)
      (Bool.eq_true_of_not_eq_false htrue)
    rw [List.mem_singleton.mp hfound, hparts] at hall
    exact hnot (hall part hpart)
  refine ⟨hparts, hmatch, ?_, ?_, ?_, ?_⟩
  · exact (roots_matched_whole path _).2.2.2.2 _ (by simp) (by simp) hmatch
  · exact hother _ ⟨"controller", by decide +kernel, by decide⟩
  · exact hother _ ⟨"events_controller.rb", by decide +kernel, by decide⟩
  · exact ((roots_matched_whole path []).2.2.2.1 _ (by rw [hparts]; decide +kernel)).1

end Path

end LocaleKeys

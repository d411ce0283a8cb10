import LocaleKeys.Files

/-!
# Proofs: collected files

Every path that is collected leads to a file, so its bytes can be read. This rests on one thing
only: that nothing in the file system is called `..`, as these names lead back and not down.
-/

namespace LocaleKeys.Files

variable {files : Files}

/-- Nothing in the file system is called by the two dots that lead back. -/
def Proper (files : Files) : Prop := ∀ e ∈ files.entries, ".." ∉ e.1

instance (files : Files) : Decidable files.Proper :=
  inferInstanceAs (Decidable (∀ e ∈ files.entries, ".." ∉ e.1))

/-! ## What is collected -/

theorem mem_of_mem_insert {p q : Path} {found : List Path} (h : q ∈ insert p found) :
    q = p ∨ q ∈ found := by
  induction found with
  | nil => exact .inl (List.mem_singleton.mp h)
  | cons r rest ih =>
    rw [insert] at h
    split at h
    · exact List.mem_cons.mp h
    · split at h
      · rcases List.mem_cons.mp h with rfl | h
        · exact .inr List.mem_cons_self
        · exact (ih h).imp_right (List.mem_cons_of_mem r)
      · exact .inr h

/-- What is collected is a candidate for one of the paths. -/
theorem exists_candidates_of_mem_collect {paths : List Path} {q : Path}
    (h : q ∈ files.collect paths) : ∃ p ∈ paths, q ∈ files.candidates p := by
  have hall : ∀ (found candidates : List Path),
      q ∈ candidates.foldl (fun found p => insert p found) found →
        q ∈ found ∨ q ∈ candidates := by
    intro found candidates
    induction candidates generalizing found with
    | nil => exact fun h => .inl h
    | cons p candidates ih =>
      intro h
      rcases ih _ h with h | h
      · rcases mem_of_mem_insert h with rfl | h
        · exact .inr List.mem_cons_self
        · exact .inl h
      · exact .inr (List.mem_cons_of_mem p h)
  rcases hall [] _ h with h | h
  · cases h
  · exact List.mem_flatMap.mp h

/-! ## What can be read -/

/-- A file is one of the entries. -/
theorem exists_entry_of_isFile {place : List String} (h : files.isFile place = true) :
    ∃ entry, (place, entry) ∈ files.entries := by
  rw [isFile, content?] at h
  cases hentry : files.entries.reverse.lookup place with
  | none => simp [hentry] at h
  | some entry =>
    obtain ⟨before, after, hentries, -⟩ := List.lookup_eq_some_iff.mp hentry
    have hmem : (place, entry) ∈ files.entries.reverse := by
      rw [hentries]
      exact List.mem_append_right before List.mem_cons_self
    exact ⟨entry, List.mem_reverse.mp hmem⟩

/-- What leads down to an entry is a directory. -/
theorem isDirectory_of_entry {place : List String} {name : String} {names : List String}
    {entry : Entry} (h : (place ++ name :: names, entry) ∈ files.entries) :
    files.isDirectory place = true := by
  have hbelow : isBelow place (place ++ name :: names) = true := by
    simp [isBelow, List.isPrefixOf_iff_prefix]
  rw [isDirectory, Bool.or_eq_true, List.any_eq_true]
  exact .inr ⟨_, h, by simp [hbelow]⟩

/-- From a place the names of a file below it lead to that file. -/
theorem foldlM_step_of_isFile (hproper : files.Proper) (names place : List String)
    (h : files.isFile (place ++ names) = true) :
    names.foldlM files.step place = some (place ++ names) := by
  induction names generalizing place with
  | nil => simp
  | cons name names ih =>
    obtain ⟨entry, hentry⟩ := exists_entry_of_isFile h
    have hdirectory : files.isDirectory place = true := isDirectory_of_entry hentry
    have hname : name ≠ ".." := by
      rintro rfl
      exact hproper _ hentry (by simp)
    have happend : place ++ name :: names = (place ++ [name]) ++ names := by simp
    have hthere :
        (files.isFile (place ++ [name]) || files.isDirectory (place ++ [name])) = true := by
      rw [Bool.or_eq_true]
      cases names with
      | nil => exact .inl h
      | cons inner names =>
        rw [happend] at hentry
        exact .inr (isDirectory_of_entry hentry)
    have hstep : files.step place name = some (place ++ [name]) := by
      rw [step, hdirectory, if_neg (by simp), if_neg hname, if_pos hthere]
    rw [happend] at h
    rw [List.foldlM_cons, hstep, happend]
    exact ih (place ++ [name]) h

theorem place?_below (files : Files) (p : Path) (names : List String) :
    files.place? (p.below names) = (files.place? p).bind (names.foldlM files.step ·) := by
  rw [place?, Path.below, List.foldlM_append]
  rfl

/-- The files below a place, by the names that lead to them. -/
theorem mem_below_iff {place names : List String} :
    names ∈ files.below place ↔ names ≠ [] ∧ files.isFile (place ++ names) = true := by
  rw [below, List.mem_map]
  constructor
  · rintro ⟨⟨inner, entry⟩, hinner, rfl⟩
    obtain ⟨hfile, hbelow⟩ := Bool.and_eq_true_iff.mp (List.mem_filter.mp hinner).2
    obtain ⟨hstart, hlength⟩ := Bool.and_eq_true_iff.mp hbelow
    obtain ⟨names, rfl⟩ := List.isPrefixOf_iff_prefix.mp hstart
    dsimp only at hfile hlength ⊢
    rw [List.drop_left]
    refine ⟨?_, hfile⟩
    rintro rfl
    simp at hlength
  · rintro ⟨hne, hfile⟩
    obtain ⟨entry, hentry⟩ := exists_entry_of_isFile hfile
    refine ⟨(place ++ names, entry), List.mem_filter.mpr ⟨hentry, ?_⟩, List.drop_left⟩
    have hlength : 0 < names.length := List.length_pos_iff.mpr hne
    simp [hfile, isBelow, hlength]

/-- Every candidate can be read. -/
theorem exists_read?_of_mem_candidates (hproper : files.Proper) {p q : Path}
    (h : q ∈ files.candidates p) : ∃ source, files.read? q = some source := by
  rw [candidates] at h
  cases hplace : files.place? p with
  | none => simp [hplace] at h
  | some place =>
    simp only [hplace] at h
    split at h
    · -- a file below a directory: its names lead from there to it
      obtain ⟨names, hnames, rfl⟩ := List.mem_map.mp h
      obtain ⟨-, hfile⟩ := mem_below_iff.mp (List.mem_filter.mp hnames).1
      obtain ⟨source, hsource⟩ := Option.isSome_iff_exists.mp hfile
      refine ⟨source, ?_⟩
      rw [read?, place?_below, hplace, Option.bind_some,
        foldlM_step_of_isFile hproper names place hfile]
      exact hsource
    · split at h
      · rename_i hfile
        obtain ⟨source, hsource⟩ := Option.isSome_iff_exists.mp hfile
        refine ⟨source, ?_⟩
        rw [List.mem_singleton.mp h, read?, hplace]
        exact hsource
      · cases h

/-- Every collected file can be read. -/
theorem exists_read?_of_mem_collect (hproper : files.Proper) {paths : List Path} {q : Path}
    (h : q ∈ files.collect paths) : ∃ source, files.read? q = some source := by
  obtain ⟨p, -, hq⟩ := exists_candidates_of_mem_collect h
  exact exists_read?_of_mem_candidates hproper hq

end LocaleKeys.Files

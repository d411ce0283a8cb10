import LocaleKeys.Proofs.ByteLines
import LocaleKeys.Proofs.Files
import Mathlib.Data.List.Sort

/-!
# Proofs: which files are collected

The files that are collected for some paths are in the order of paths, each once, and they are those
for which one of the paths stands: the path itself, if it leads to a file, or the sources below it,
if it leads to a directory. So only the set of the paths counts, and more paths add their own files.
A directory leaves out what lies in an excluded part of it, but not what lies in an excluded part of
another one.
-/

namespace LocaleKeys

/-! ## The order of paths -/

namespace Text

/-- No piece holds the separator. -/
theorem ne_sep_of_mem_pieces {α : Type} [DecidableEq α] {sep : α} {as p : List α}
    (hp : p ∈ pieces sep as) : ∀ a ∈ p, a ≠ sep := by
  induction as using induct_pieces sep with
  | last as has =>
    rw [pieces_of_not_mem has] at hp
    rwa [List.mem_singleton.mp hp]
  | cut as bs has ih =>
    rw [pieces_append_sep has] at hp
    rcases List.mem_cons.mp hp with rfl | hp
    · exact has
    · exact ih hp

end Text

namespace Path

variable {p q r : Path}

theorem before_iff : p.before q = true ↔ p.parts < q.parts := decide_eq_true_iff

theorem not_before_self (p : Path) : ¬ p.before p = true := by
  rw [before_iff]
  exact List.lt_irrefl _

theorem before_trans (hpq : p.before q = true) (hqr : q.before r = true) : p.before r = true := by
  rw [before_iff] at *
  exact List.lt_trans hpq hqr

theorem not_before_of_before (h : p.before q = true) : ¬ q.before p = true := by
  rw [before_iff] at *
  exact List.lt_asymm h

theorem parts_eq_of_not_before (hpq : ¬ p.before q = true) (hqp : ¬ q.before p = true) :
    p.parts = q.parts := by
  rw [before_iff] at hpq hqp
  exact List.le_antisymm hqp hpq

instance : Std.Irrefl fun p q : Path => p.before q = true := ⟨not_before_self⟩

instance : Std.Antisymm fun p q : Path => p.before q = true :=
  ⟨fun _ _ hpq hqp => absurd hqp (not_before_of_before hpq)⟩

/-- Slashes stand in the root only. -/
structure Proper (p : Path) : Prop where
  /-- A root has a slash, -/
  slash_root : p.root ≠ "" → '/' ∈ p.root.toList
  /-- and no name has one. -/
  slash_names : ∀ name ∈ p.names, '/' ∉ name.toList

/-- The parts of a path tell its root from its names. -/
theorem Proper.eq_of_parts (hp : p.Proper) (hq : q.Proper) (h : p.parts = q.parts) : p = q := by
  obtain ⟨proot, pnames⟩ := p
  obtain ⟨qroot, qnames⟩ := q
  simp only [parts] at h
  by_cases hproot : proot = "" <;> by_cases hqroot : qroot = ""
  · rw [if_pos hproot, if_pos hqroot] at h
    rw [hproot, hqroot, h]
  · rw [if_pos hproot, if_neg hqroot] at h
    exact absurd (hq.slash_root hqroot) (hp.slash_names qroot (h ▸ List.mem_cons_self))
  · rw [if_neg hproot, if_pos hqroot] at h
    exact absurd (hp.slash_root hproot) (hq.slash_names proot (h ▸ List.mem_cons_self))
  · rw [if_neg hproot, if_neg hqroot] at h
    obtain ⟨rfl, rfl⟩ := List.cons.inj h
    rfl

theorem proper_ofString (s : String) : (ofString s).Proper where
  slash_root h := by
    rw [ofString, rootOf] at *
    split at h
    · exact absurd rfl h
    · simp
    · simp
  slash_names name hname hslash := by
    obtain ⟨cs, hcs, rfl⟩ := List.mem_map.mp (List.mem_filter.mp hname).1
    rw [String.toList_ofList] at hslash
    exact Text.ne_sep_of_mem_pieces hcs '/' hslash rfl

theorem Proper.below (hp : p.Proper) {names : List String}
    (hnames : ∀ name ∈ names, '/' ∉ name.toList) : (p.below names).Proper where
  slash_root := hp.slash_root
  slash_names := List.forall_mem_append.mpr ⟨hp.slash_names, hnames⟩

theorem isSource_iff : p.isSource = true ↔ Text.lowered p.suffix ∈ sourceSuffixes := by
  delta isSource
  rw [List.contains_iff_mem]

end Path

namespace Files

variable {files : Files} {p q : Path} {found : List Path}

/-! ## Paths in order -/

theorem pairwise_insert (p : Path) (h : found.Pairwise fun p q => p.before q = true) :
    (insert p found).Pairwise fun p q => p.before q = true := by
  induction found with
  | nil => exact List.pairwise_singleton _ p
  | cons q found ih =>
    obtain ⟨hq, hfound⟩ := List.pairwise_cons.mp h
    rw [insert]
    by_cases hpq : p.before q = true
    · rw [if_pos hpq]
      refine List.pairwise_cons.mpr ⟨fun r hr => ?_, h⟩
      rcases List.mem_cons.mp hr with rfl | hr
      · exact hpq
      · exact Path.before_trans hpq (hq r hr)
    · rw [if_neg hpq]
      by_cases hqp : q.before p = true
      · rw [if_pos hqp]
        refine List.pairwise_cons.mpr ⟨fun r hr => ?_, ih hfound⟩
        rcases mem_of_mem_insert hr with rfl | hr
        · exact hqp
        · exact hq r hr
      · rw [if_neg hqp]
        exact h

theorem mem_insert_of_mem (h : q ∈ found) : q ∈ insert p found := by
  induction found with
  | nil => cases h
  | cons r found ih =>
    rw [insert]
    split
    · exact List.mem_cons_of_mem p h
    · split
      · rcases List.mem_cons.mp h with rfl | h
        · exact List.mem_cons_self
        · exact List.mem_cons_of_mem r (ih h)
      · exact h

theorem mem_insert_self (h : ∀ q ∈ found, q.parts = p.parts → q = p) : p ∈ insert p found := by
  induction found with
  | nil => exact List.mem_singleton_self p
  | cons r found ih =>
    obtain ⟨hr, hfound⟩ := List.forall_mem_cons.mp h
    rw [insert]
    split
    · exact List.mem_cons_self
    · split
      · exact List.mem_cons_of_mem r (ih hfound)
      · rename_i hpr hrp
        rw [hr (Path.parts_eq_of_not_before hrp hpr)]
        exact List.mem_cons_self

theorem mem_insert_iff (hp : p.Proper) (hfound : ∀ q ∈ found, q.Proper) :
    q ∈ insert p found ↔ q = p ∨ q ∈ found := by
  refine ⟨mem_of_mem_insert, ?_⟩
  rintro (rfl | h)
  · exact mem_insert_self fun r hr hparts => (hfound r hr).eq_of_parts hp hparts
  · exact mem_insert_of_mem h

/-- Paths are put in one after another, and all of them stay. -/
theorem mem_foldl_insert {candidates : List Path} (hcandidates : ∀ q ∈ candidates, q.Proper)
    (hfound : ∀ q ∈ found, q.Proper) :
    q ∈ candidates.foldl (fun found p => insert p found) found ↔ q ∈ found ∨ q ∈ candidates := by
  induction candidates generalizing found with
  | nil => simp
  | cons p candidates ih =>
    obtain ⟨hp, hcandidates⟩ := List.forall_mem_cons.mp hcandidates
    have hinsert : ∀ q ∈ insert p found, q.Proper := by
      intro q hq
      rcases mem_of_mem_insert hq with rfl | hq
      · exact hp
      · exact hfound q hq
    rw [List.foldl_cons, ih hcandidates hinsert, mem_insert_iff hp hfound, List.mem_cons]
    tauto

/-- What is collected is in order. -/
theorem pairwise_collect (files : Files) (paths : List Path) :
    (files.collect paths).Pairwise fun p q => p.before q = true := by
  rw [collect]
  generalize paths.flatMap files.candidates = candidates
  induction candidates using List.reverseRecOn with
  | nil => exact .nil
  | append_singleton candidates p ih =>
    rw [List.foldl_append]
    exact pairwise_insert p ih

/-! ## What a path stands for -/

/-- A picture of a file system: no name leads back or holds a slash, and no file is a directory. -/
structure Sound (files : Files) : Prop where
  /-- No name leads back. -/
  proper : files.Proper
  /-- No name holds a slash. -/
  slashless : ∀ e ∈ files.entries, ∀ name ∈ e.1, '/' ∉ name.toList
  /-- No file is a directory. -/
  apart : ∀ e ∈ files.entries, files.isFile e.1 = true → files.isDirectory e.1 = false

/-- A path leads to a file. -/
def LeadsToFile (files : Files) (p : Path) : Prop :=
  ∃ place, files.place? p = some place ∧ files.isFile place = true

/-- A path leads to a directory. -/
def LeadsToDirectory (files : Files) (p : Path) : Prop :=
  ∃ place, files.place? p = some place ∧ files.isDirectory place = true

/-- A path stands for a file that is to be scanned. -/
inductive StandsFor (files : Files) (p : Path) : Path → Prop where
  /-- The path leads to the file, whatever it is called and wherever it lies. -/
  | self (hfile : files.LeadsToFile p) : StandsFor files p p
  /-- The file lies below the directory to which the path leads, its suffix is that of a source in
  capital or small letters, and none of the names that lead down to it is excluded. -/
  | below {names : List String} (hdirectory : files.LeadsToDirectory p) (hne : names ≠ [])
      (hback : ".." ∉ names) (hfile : files.LeadsToFile (p.below names))
      (hsuffix : Text.lowered (p.below names).suffix ∈ Path.sourceSuffixes)
      (hexcluded : ∀ name ∈ names, name ∉ excluded) : StandsFor files p (p.below names)

/-- Names that do not lead back lead down. -/
theorem eq_append_of_foldlM_step {names place place' : List String} (hback : ".." ∉ names)
    (h : names.foldlM files.step place = some place') : place' = place ++ names := by
  induction names generalizing place with
  | nil =>
    rw [List.append_nil]
    exact (Option.some.inj h).symm
  | cons name names ih =>
    obtain ⟨hname, hnames⟩ := not_or.mp (List.mem_cons.not.mp hback)
    rw [List.foldlM_cons] at h
    obtain ⟨next, hstep, hrest⟩ := Option.bind_eq_some_iff.mp h
    have hnext : next = place ++ [name] := by
      rw [step, if_neg (Ne.symm hname)] at hstep
      split at hstep
      · cases hstep
      · split at hstep
        · exact (Option.some.inj hstep).symm
        · cases hstep
    rw [ih hnames hrest, hnext, List.append_assoc, List.singleton_append]

theorem leadsToFile_below_iff (hfiles : files.Sound) {place names : List String}
    (hplace : files.place? p = some place) (hback : ".." ∉ names) :
    files.LeadsToFile (p.below names) ↔ files.isFile (place ++ names) = true := by
  rw [LeadsToFile, place?_below, hplace, Option.bind_some]
  constructor
  · rintro ⟨place', hplace', hfile⟩
    rwa [eq_append_of_foldlM_step hback hplace'] at hfile
  · intro hfile
    exact ⟨_, foldlM_step_of_isFile hfiles.proper names place hfile, hfile⟩

theorem Sound.back_notMem (hfiles : files.Sound) {place names : List String}
    (h : files.isFile (place ++ names) = true) : ".." ∉ names := by
  obtain ⟨entry, hentry⟩ := exists_entry_of_isFile h
  exact fun hback => hfiles.proper _ hentry (List.mem_append_right place hback)

theorem Sound.isDirectory_eq_false (hfiles : files.Sound) {place : List String}
    (h : files.isFile place = true) : files.isDirectory place = false := by
  obtain ⟨entry, hentry⟩ := exists_entry_of_isFile h
  exact hfiles.apart _ hentry h

theorem leadsToFile_iff {place : List String} (hplace : files.place? p = some place) :
    files.LeadsToFile p ↔ files.isFile place = true := by
  simp [LeadsToFile, hplace]

theorem leadsToDirectory_iff {place : List String} (hplace : files.place? p = some place) :
    files.LeadsToDirectory p ↔ files.isDirectory place = true := by
  simp [LeadsToDirectory, hplace]

/-- A path to a directory stands for the sources below it. -/
theorem standsFor_iff_of_isDirectory (hfiles : files.Sound) {place : List String}
    (hplace : files.place? p = some place) (hdirectory : files.isDirectory place = true) :
    files.StandsFor p q ↔ ∃ names ∈ (files.below place).filter fun names =>
      (p.below names).isSource && !names.any excluded.contains, p.below names = q := by
  constructor
  · intro h
    cases h with
    | self hfile =>
      rw [hfiles.isDirectory_eq_false ((leadsToFile_iff hplace).mp hfile)] at hdirectory
      cases hdirectory
    | @below names _ hne hback hfile hsuffix hexcluded =>
      refine ⟨names, List.mem_filter.mpr ⟨mem_below_iff.mpr ⟨hne, ?_⟩, ?_⟩, rfl⟩
      · exact (leadsToFile_below_iff hfiles hplace hback).mp hfile
      · simpa [Path.isSource_iff.mpr hsuffix] using hexcluded
  · rintro ⟨names, hnames, rfl⟩
    obtain ⟨hbelow, htest⟩ := List.mem_filter.mp hnames
    obtain ⟨hne, hfile⟩ := mem_below_iff.mp hbelow
    obtain ⟨hsource, hexcluded⟩ := Bool.and_eq_true_iff.mp htest
    have hback : ".." ∉ names := hfiles.back_notMem hfile
    exact .below ((leadsToDirectory_iff hplace).mpr hdirectory) hne hback
      ((leadsToFile_below_iff hfiles hplace hback).mpr hfile) (Path.isSource_iff.mp hsource)
      (by simpa using hexcluded)

/-- Any other path stands for itself at most. -/
theorem standsFor_iff_of_not_isDirectory {place : List String}
    (hplace : files.place? p = some place) (hdirectory : ¬ files.isDirectory place = true) :
    files.StandsFor p q ↔ files.isFile place = true ∧ q = p := by
  constructor
  · intro h
    cases h with
    | self hfile => exact ⟨(leadsToFile_iff hplace).mp hfile, rfl⟩
    | below hp => exact absurd ((leadsToDirectory_iff hplace).mp hp) hdirectory
  · rintro ⟨hfile, rfl⟩
    exact .self ((leadsToFile_iff hplace).mpr hfile)

theorem not_standsFor_of_none (hplace : files.place? p = none) : ¬ files.StandsFor p q := by
  intro h
  cases h with
  | self hlead | below hlead =>
    obtain ⟨place, hsome, -⟩ := hlead
    rw [hplace] at hsome
    cases hsome

theorem mem_candidates_iff (hfiles : files.Sound) :
    q ∈ files.candidates p ↔ files.StandsFor p q := by
  rw [candidates]
  cases hplace : files.place? p with
  | none => exact iff_of_false List.not_mem_nil (not_standsFor_of_none hplace)
  | some place =>
    dsimp only
    by_cases hdirectory : files.isDirectory place = true
    · rw [if_pos hdirectory, List.mem_map, standsFor_iff_of_isDirectory hfiles hplace hdirectory]
    · rw [if_neg hdirectory, standsFor_iff_of_not_isDirectory hplace hdirectory]
      by_cases hfile : files.isFile place = true
      · simp [hfile]
      · simp [hfile]

/-! ## What is collected -/

/-- Slashes stand in the roots of the collected paths only. -/
theorem StandsFor.proper (hfiles : files.Sound) (hp : p.Proper) (h : files.StandsFor p q) :
    q.Proper := by
  cases h with
  | self => exact hp
  | @below names hdirectory _ hback hfile =>
    obtain ⟨place, hplace, -⟩ := hdirectory
    obtain ⟨entry, hentry⟩ :=
      exists_entry_of_isFile ((leadsToFile_below_iff hfiles hplace hback).mp hfile)
    exact hp.below fun name hname =>
      hfiles.slashless _ hentry name (List.mem_append_right place hname)

theorem mem_collect_iff (hfiles : files.Sound) {paths : List Path}
    (hpaths : ∀ p ∈ paths, p.Proper) :
    q ∈ files.collect paths ↔ ∃ p ∈ paths, files.StandsFor p q := by
  have hcandidates : ∀ q ∈ paths.flatMap files.candidates, q.Proper := by
    intro q hq
    obtain ⟨p, hp, hq⟩ := List.mem_flatMap.mp hq
    exact ((mem_candidates_iff hfiles).mp hq).proper hfiles (hpaths p hp)
  rw [collect, mem_foldl_insert hcandidates (List.forall_mem_nil _), List.mem_flatMap]
  simp only [mem_candidates_iff hfiles, List.not_mem_nil, false_or]

/-- What is in order is told by its members. -/
theorem eq_collect_iff {paths : List Path} :
    found = files.collect paths ↔ found.Pairwise (fun p q => p.before q = true) ∧
      ∀ q, q ∈ found ↔ q ∈ files.collect paths := by
  constructor
  · rintro rfl
    exact ⟨pairwise_collect files paths, fun _ => Iff.rfl⟩
  · rintro ⟨hfound, hmem⟩
    exact hfound.eq_of_mem_iff (pairwise_collect files paths) hmem

/-- **Which files are collected.** They are in order and each comes once, and they are those for
which one of the paths stands. So only the set of paths counts, and the files of two lists of paths
together are those of both, in order and each once. -/
theorem collected_exact (files : Files) (hfiles : files.Sound) (texts texts' : List String) :
    let paths := texts.map Path.ofString
    let paths' := texts'.map Path.ofString
    (files.collect paths).Pairwise (fun p q => p.before q = true) ∧
    (files.collect paths).Nodup ∧
    (∀ q, q ∈ files.collect paths ↔ ∃ p ∈ paths, files.StandsFor p q) ∧
    -- neither the order of the paths nor repetitions count
    ((∀ p, p ∈ paths ↔ p ∈ paths') → files.collect paths = files.collect paths') ∧
    -- two lists together give the union
    ∀ found, found = files.collect (paths ++ paths') ↔
      found.Pairwise (fun p q => p.before q = true) ∧
        ∀ q, q ∈ found ↔ q ∈ files.collect paths ∨ q ∈ files.collect paths' := by
  intro paths paths'
  have hproper : ∀ texts : List String, ∀ p ∈ texts.map Path.ofString, p.Proper := by
    intro texts p hp
    obtain ⟨s, -, rfl⟩ := List.mem_map.mp hp
    exact Path.proper_ofString s
  have hmem : ∀ q, q ∈ files.collect paths ↔ ∃ p ∈ paths, files.StandsFor p q :=
    fun q => mem_collect_iff hfiles (hproper texts)
  have hmem' : ∀ q, q ∈ files.collect paths' ↔ ∃ p ∈ paths', files.StandsFor p q :=
    fun q => mem_collect_iff hfiles (hproper texts')
  refine ⟨pairwise_collect files paths, (pairwise_collect files paths).nodup, hmem,
    fun hsame => ?_, fun found => ?_⟩
  · refine eq_collect_iff.mpr ⟨pairwise_collect files paths, fun q => ?_⟩
    rw [hmem, hmem']
    simp only [hsame]
  · have happend : ∀ q, q ∈ files.collect (paths ++ paths') ↔
        q ∈ files.collect paths ∨ q ∈ files.collect paths' := by
      intro q
      have hboth : paths ++ paths' = (texts ++ texts').map Path.ofString :=
        List.map_append.symm
      rw [hmem, hmem', mem_collect_iff hfiles (hboth ▸ hproper (texts ++ texts'))]
      simp only [List.mem_append, or_and_right, exists_or]
    rw [eq_collect_iff]
    simp only [happend]

/-- A working directory with sources in it, in directories with excluded names, and other files. -/
def mixedTree : Files where
  here := ["work"]
  entries :=
    [(["work", "app", "vendor", "b.rb"], .file []), (["work", "app", "a.RB"], .file []),
      (["work", "app", "c.md"], .file []), (["work", "log"], .directory),
      (["work", "notes.txt"], .file [])]

theorem collected_exact_overlapping :
    let outer := [".", "notes.txt", "./app/"].map Path.ofString
    let inner := ["app/vendor", "app/vendor"].map Path.ofString
    mixedTree.Sound ∧
      mixedTree.collect outer = ["app/a.RB", "notes.txt"].map Path.ofString ∧
      mixedTree.collect (outer ++ inner) =
        ["app/a.RB", "app/vendor/b.rb", "notes.txt"].map Path.ofString := by
  intro outer inner
  have hmem : ∀ a b c q : Path, q ∈ [a, b, c] ↔ q ∈ [a, c] ∨ q ∈ [b] := by
    intro a b c q
    simp only [List.mem_cons, List.not_mem_nil]
    tauto
  have hfiles : mixedTree.Sound := ⟨by decide, by decide, by decide⟩
  have houter : mixedTree.collect outer = ["app/a.RB", "notes.txt"].map Path.ofString := by
    decide +kernel
  have hinner : mixedTree.collect inner = ["app/vendor/b.rb"].map Path.ofString := by
    decide +kernel
  obtain ⟨-, -, -, -, hunion⟩ := collected_exact mixedTree hfiles [".", "notes.txt", "./app/"]
    ["app/vendor", "app/vendor"]
  refine ⟨hfiles, houter, ((hunion _).mpr ⟨by decide +kernel, fun q => ?_⟩).symm⟩
  rw [houter, hinner]
  exact hmem _ _ _ q

end Files

end LocaleKeys

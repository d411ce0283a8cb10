import LocaleKeys.Proofs.ScanOutcome

/-!
# Proofs: one verdict for each site

Once the check for cycles has passed, every call site has a verdict of its own, which no other site
changes. The uses of keys that an index gives are those of the verdicts on its sites, in order.
-/

namespace LocaleKeys

open Ast

/-! ## What a lookup says about its key -/

/-- How a lookup comes to what it says about its key. -/
inductive Lookup.Reads (l : Lookup) : KeyReading → Prop where
  /-- There is no key to be had. -/
  | unusable (reason : DropReason) : Reads l (.unusable reason)
  /-- The key is complete with its scope. A receiver takes the dots at its start away. -/
  | complete {key : StringLit} {k full : String} (hkey : l.key = some key) (htext : key.text ≠ "")
      (hk : Key.isRelative key.text = false ∨ l.form = .qualified)
      (hfull : Key.absolute? k l.options = some full) (hne : full ≠ "") : Reads l (.complete full)
  /-- The key begins with a dot and there is no receiver. -/
  | relative {key : StringLit} (hkey : l.key = some key) (htext : key.text ≠ "")
      (hform : l.form = .short) (hrelative : Key.isRelative key.text = true) :
      Reads l (.relative (String.ofList (key.text.toList.drop 1)))

theorem Lookup.reads_withScope {l : Lookup} {key : StringLit} (hkey : l.key = some key)
    (htext : key.text ≠ "") (hk : Key.isRelative key.text = false ∨ l.form = .qualified)
    (k : String) : l.Reads (l.withScope k) := by
  rw [withScope]
  cases hfull : Key.absolute? k l.options with
  | none => exact .unusable _
  | some full =>
    by_cases hne : full = ""
    · simp only [if_pos hne]
      exact .unusable _
    · simp only [if_neg hne]
      exact .complete hkey htext hk hfull hne

theorem Lookup.reads (settings : Settings) (l : Lookup) : l.Reads (l.reading settings) := by
  rw [reading]
  cases hkey : l.key with
  | none => exact .unusable _
  | some key =>
    dsimp only
    by_cases htext : key.text = ""
    · rw [if_pos htext]
      exact .unusable _
    rw [if_neg htext]
    by_cases hstrict : (key.interpolated && settings.strict) = true
    · rw [if_pos hstrict]
      exact .unusable _
    rw [if_neg hstrict]
    -- the scope may be an expression that has to be run
    split
    · exact .unusable _
    by_cases hrelative : Key.isRelative key.text = true
    · rw [if_pos hrelative]
      cases hform : l.form with
      | qualified => exact reads_withScope hkey htext (Or.inr hform) _
      | short =>
        by_cases hdots : Key.isDots key.text = true
        · simp only [if_pos hdots]
          exact .unusable _
        · simp only [if_neg hdots]
          exact .relative hkey htext hform hrelative
    · rw [if_neg hrelative]
      exact reads_withScope hkey htext (Or.inl (Bool.eq_false_iff.mpr hrelative)) _

/-! ## Verdicts -/

namespace Resolve

variable (settings : Settings) (d : Document) (index : Index)

/-- The verdict on a call site. Nothing is said where the search for actions runs into a cycle. -/
def verdictAt (p : Placed) : Verdict :=
  match site settings d index p with
  | .ok verdict => verdict
  | .error _ => .ignored

/-- The verdicts on all call sites of an index, in order. -/
def verdicts : List Verdict := index.sites.map (verdictAt settings d index)

/-- The cycle that stops the resolution of an index before any call site is looked at. -/
def stopped? : Option (List String) :=
  match settings.mode with
  | .plain => none
  | .conventions => cycle? settings d.path index.contexts

/-- The uses of keys that the call sites of an index give, or the fault that stops it. -/
def outcome : Except Fault (List Occurrence) :=
  match all settings d index with
  | (_, some methods) => .error (.cyclic (some d.path) methods)
  | (verdicts, none) => .ok (verdicts.flatMap Verdict.occurrences)

variable {settings d index}

theorem sites_eq_map (h : ∀ p, ∃ verdict, site settings d index p = .ok verdict)
    (ps : List Placed) :
    sites settings d index ps = (ps.map (verdictAt settings d index), none) := by
  induction ps with
  | nil => rfl
  | cons p ps ih =>
    obtain ⟨verdict, hverdict⟩ := h p
    have hat : verdictAt settings d index p = verdict := by rw [verdictAt, hverdict]
    simp only [sites, hverdict, ih, List.map_cons, hat]

variable (settings d index)

theorem all_eq :
    all settings d index =
      match stopped? settings d index with
      | some cycle => ([], some cycle)
      | none => (verdicts settings d index, none) := by
  rw [all, stopped?]
  cases hmode : settings.mode with
  | plain => exact sites_eq_map (site_ok (by simp [hmode])) index.sites
  | conventions =>
    cases hcycle : cycle? settings d.path index.contexts with
    | some cycle => rfl
    | none => exact sites_eq_map (site_ok fun _ => hcycle) index.sites

/-- An index gives the uses of keys of its sites, one site after another, unless it is stopped. -/
theorem outcome_eq :
    outcome settings d index =
      match stopped? settings d index with
      | some methods => .error (.cyclic (some d.path) methods)
      | none => .ok ((verdicts settings d index).flatMap Verdict.occurrences) := by
  rw [outcome, all_eq]
  cases stopped? settings d index <;> rfl

end Resolve

namespace Scan

variable {parse : Parser} {settings : Settings} {path text : String} {root : Node}

/-- A scan that gives uses of keys is that of a tree without defects. -/
theorem hasError_of_ok {occurrences : List Occurrence}
    (h : (withTree parse settings path text root).outcome = .ok occurrences) :
    root.tag.hasError = false := by
  by_contra hroot
  obtain ⟨line, reason, hfault⟩ :=
    outcome_of_malformed parse settings path text (by simpa using hroot)
  rw [hfault] at h
  cases h

theorem withTree_eq_document (hroot : root.tag.hasError = false) :
    withTree parse settings path text root = document parse settings (.ofText path text) root := by
  rw [withTree, Node.fault?, hroot]
  rfl

/-- A scan adds the uses that comments declare to those that the index gives. -/
theorem document_outcome_eq (parse : Parser) (settings : Settings) (d : Document) (root : Node) :
    (document parse settings d root).outcome =
      (Resolve.outcome settings d (Index.ofTree settings root)).map
        (Hint.occurrences parse settings d ++ ·) := by
  rw [document_outcome, Resolve.outcome]
  rcases Resolve.all settings d (Index.ofTree settings root) with ⟨verdicts, _ | methods⟩ <;> rfl

end Scan

end LocaleKeys

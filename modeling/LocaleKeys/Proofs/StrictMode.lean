import LocaleKeys.Proofs.Attribution
import LocaleKeys.Proofs.Hints
import LocaleKeys.Proofs.PlainMode

/-!
# Proofs: strict scans

A strict scan gives what any other scan gives, less the uses of keys that hold an interpolated
expression, be it in code or in a comment. Every other use stays as it is and where it is, and a
scan fails in one way if it fails in the other.
-/

namespace LocaleKeys

open Ast

/-! ## Interpolated literals -/

namespace Ast

/-- Is a literal of this kind made of parts, some of which may be interpolated? -/
def Kind.hasParts : Kind → Bool
  | .string | .delimitedSymbol | .bareString | .bareSymbol => true
  | _ => false

namespace Node

/-- A string or symbol holds an interpolated expression, itself or in one of the strings side by
side in it. -/
inductive Interpolated : Node → Prop where
  /-- One of its parts is interpolated. -/
  | part {n c : Node} (hkind : n.kind.hasParts = true) (hc : c ∈ n.named)
      (hpart : c.kind = .interpolation) : Interpolated n
  /-- One of the strings side by side in it is. -/
  | piece {n c : Node} (hkind : n.kind = .chainedString) (hc : c ∈ n.named)
      (hpiece : Interpolated c) : Interpolated n

mutual

/-- Does a string or symbol hold an interpolated expression? -/
def isInterpolated : Node → Bool
  | ⟨t, cs⟩ =>
    if t.kind.hasParts then (cs.filter isNamed).any (·.kind = .interpolation)
    else t.kind = .chainedString && isInterpolatedAny cs

/-- Does one of some nodes of the grammar hold an interpolated expression? -/
def isInterpolatedAny : List Node → Bool
  | [] => false
  | c :: cs => c.isNamed && c.isInterpolated || isInterpolatedAny cs

end

theorem isInterpolatedAny_iff {cs : List Node} :
    isInterpolatedAny cs = true ↔ ∃ c ∈ cs.filter isNamed, c.isInterpolated = true := by
  induction cs with
  | nil => simp [isInterpolatedAny]
  | cons c cs ih =>
    rw [isInterpolatedAny, Bool.or_eq_true, ih, List.filter_cons]
    cases c.isNamed <;> simp

theorem isInterpolated_iff {n : Node} : n.isInterpolated = true ↔ n.Interpolated := by
  induction n using induct with
  | h t cs ih =>
    rw [isInterpolated]
    constructor
    · intro h
      split at h
      · rename_i hparts
        obtain ⟨c, hc, hpart⟩ := List.any_eq_true.mp h
        exact .part hparts hc (of_decide_eq_true hpart)
      · obtain ⟨hkind, hany⟩ := Bool.and_eq_true_iff.mp h
        obtain ⟨c, hc, hpiece⟩ := isInterpolatedAny_iff.mp hany
        exact .piece (of_decide_eq_true hkind) hc
          ((ih c (List.mem_of_mem_filter hc)).mp hpiece)
    · intro h
      cases h with
      | part hkind hc hpart =>
        have hparts : t.kind.hasParts = true := hkind
        rw [if_pos hparts]
        exact List.any_eq_true.mpr ⟨_, hc, decide_eq_true hpart⟩
      | piece hkind hc hpiece =>
        have hchained : t.kind = .chainedString := hkind
        have hparts : ¬ t.kind.hasParts = true := by simp [hchained, Kind.hasParts]
        rw [if_neg hparts, Bool.and_eq_true]
        exact ⟨decide_eq_true hchained, isInterpolatedAny_iff.mpr
          ⟨_, hc, (ih _ (List.mem_of_mem_filter hc)).mpr hpiece⟩⟩

instance : DecidablePred Interpolated :=
  fun n => decidable_of_iff (n.isInterpolated = true) isInterpolated_iff

example : Interpolated ⟨{ kind := .chainedString }, [⟨{ kind := .chainedString },
    [⟨{ kind := .string }, []⟩, ⟨{ kind := .string }, [⟨{ kind := .interpolation }, []⟩]⟩]⟩]⟩ := by
  decide

theorem decide_interpolated (n : Node) : decide n.Interpolated = n.isInterpolated := by
  rw [Bool.eq_iff_iff, decide_eq_true_iff, isInterpolated_iff]

theorem interpolated_stringLits? {cs : List Node} {s : StringLit} (h : stringLits? cs = some s)
    (ih : ∀ c ∈ cs, ∀ s, c.stringLit? = some s → s.interpolated = c.isInterpolated) :
    s.interpolated = isInterpolatedAny cs := by
  induction cs generalizing s with
  | nil =>
    cases h
    rfl
  | cons c cs ihcs =>
    obtain ⟨hc, hcs⟩ := List.forall_mem_cons.mp ih
    rw [stringLits?] at h
    rw [isInterpolatedAny]
    cases hnamed : c.isNamed with
    | false =>
      rw [hnamed, if_neg Bool.false_ne_true] at h
      rw [ihcs h hcs, Bool.false_and, Bool.false_or]
    | true =>
      rw [hnamed, if_pos rfl] at h
      cases ha : c.stringLit? with
      | none =>
        rw [ha] at h
        cases h
      | some a =>
        cases hb : stringLits? cs with
        | none =>
          rw [ha, hb] at h
          cases h
        | some b =>
          rw [ha, hb] at h
          cases h
          rw [StringLit.append, hc a ha, ihcs hb hcs, Bool.true_and]

/-- What is read of a literal tells whether it holds an interpolated expression. -/
theorem interpolated_stringLit? {n : Node} {s : StringLit} (h : n.stringLit? = some s) :
    s.interpolated = n.isInterpolated := by
  induction n using induct generalizing s with
  | h t cs ih =>
    rw [stringLit?] at h
    rw [isInterpolated]
    cases hkind : t.kind with
    | simpleSymbol | hashKeySymbol =>
      rw [hkind] at h
      cases h
      rfl
    | string | delimitedSymbol =>
      rw [hkind] at h
      cases h
      rfl
    | bareString | bareSymbol =>
      rw [hkind] at h
      dsimp only at h
      split at h
      · rename_i hempty
        cases h
        rw [List.isEmpty_iff.mp hempty]
        rfl
      · cases h
        rfl
    | chainedString =>
      rw [hkind] at h
      exact interpolated_stringLits? h fun c hc s hs => ih c hc hs
    | _ =>
      rw [hkind] at h
      cases h

end Node

end Ast

/-! ## What strictness does not change -/

section Strict

variable (settings : Settings) (strict : Bool)

theorem Index.ofTree_strict (root : Node) :
    Index.ofTree { settings with strict } root = Index.ofTree settings root :=
  Outline.ofTree_congr (by rfl) (by rfl) (by rfl) root

theorem Resolve.stopped?_strict (d : Document) (index : Index) :
    stopped? { settings with strict } d index = stopped? settings d index := rfl

end Strict

/-! ## Lookups -/

namespace Lookup

/-- Is the key that a call gives interpolated? -/
def interpolates (call : Node) : Bool :=
  (Arguments.ofCall call).positional.head?.any (decide ·.Interpolated)

variable {settings : Settings} {call : Node} {l : Lookup} {key : StringLit}

theorem interpolated_key (h : ofCall? settings call = some l) (hkey : l.key = some key) :
    key.interpolated = interpolates call := by
  obtain ⟨form, -, rfl⟩ := Option.map_eq_some_iff.mp h
  obtain ⟨n, hn, hlit⟩ := Option.bind_eq_some_iff.mp hkey
  rw [interpolates, hn, Option.any_some, Node.decide_interpolated,
    Node.interpolated_stringLit? hlit]

theorem reading_of_not_interpolated (hkey : l.key = some key) (h : key.interpolated = false)
    (strict : Bool) : l.reading { settings with strict } = l.reading settings := by
  simp only [reading, hkey, h, Bool.false_and]

theorem reading_of_interpolated (hkey : l.key = some key) (h : key.interpolated = true) :
    ∃ reason, l.reading { settings with strict := true } = .unusable reason := by
  simp only [reading, hkey, h, Bool.true_and]
  split
  · exact ⟨_, rfl⟩
  · exact ⟨_, rfl⟩

end Lookup

/-- Is the site that a call is a lookup of an interpolated key? -/
def Site.interpolates (call : Node) : Site → Bool
  | .lookup _ => Lookup.interpolates call
  | .helper _ => false

namespace Resolve

variable {settings : Settings} {d : Document} {index : Index}

theorem occurrences_of_unusable {p : Placed} {l : Lookup} {reason : DropReason}
    (hsite : p.site = .lookup l) (h : l.reading settings = .unusable reason) :
    (verdictAt settings d index p).occurrences = [] := by
  rw [verdictAt, site, hsite]
  simp only [h]
  rfl

/-- A strict scan drops a lookup of an interpolated key, and finds at any other site what it would
find otherwise. -/
theorem occurrences_strict {call : Node} {p : Placed} (h : p.site ∈ Site.ofCall settings call) :
    (verdictAt { settings with strict := true } d index p).occurrences =
      if p.site.interpolates call then []
      else (verdictAt { settings with strict := false } d index p).occurrences := by
  cases hsite : p.site with
  | helper x =>
    rw [verdictAt, verdictAt, site, site, hsite]
    rfl
  | lookup l =>
    rw [hsite] at h
    have hl : Lookup.ofCall? settings call = some l := by simpa [Site.ofCall] using h
    cases hkey : l.key with
    | none =>
      have hreading : ∀ strict, l.reading { settings with strict } = .unusable .nonLiteralKey := by
        intro strict
        rw [Lookup.reading, hkey]
      rw [occurrences_of_unusable hsite (hreading true),
        occurrences_of_unusable hsite (hreading false), ite_self]
    | some key =>
      rw [Site.interpolates, ← Lookup.interpolated_key hl hkey]
      cases hinterpolated : key.interpolated with
      | true =>
        obtain ⟨reason, hreading⟩ := Lookup.reading_of_interpolated hkey hinterpolated
        exact occurrences_of_unusable hsite hreading
      | false =>
        have hreading : ∀ strict, l.reading { settings with strict } = l.reading settings :=
          Lookup.reading_of_not_interpolated hkey hinterpolated
        rw [if_neg Bool.false_ne_true, verdictAt, verdictAt, site, site, hsite]
        simp only [hreading]
        rfl

end Resolve

namespace Hint

variable {settings : Settings} {d : Document} {call : Node} {l : Lookup}

theorem ofLookup?_strict (h : Lookup.ofCall? settings call = some l) :
    ofLookup? { settings with strict := true } l =
      if Lookup.interpolates call then none
      else ofLookup? { settings with strict := false } l := by
  rw [ofLookup?, ofLookup?]
  cases hkey : l.key with
  | none => rw [ite_self]
  | some key =>
    rw [← Lookup.interpolated_key h hkey]
    cases hinterpolated : key.interpolated <;> simp [hinterpolated]

/-- A strict scan drops an interpolated key in a comment, too. -/
theorem Declaration.occurrences_strict (a : Declaration)
    (h : Lookup.ofCall? settings call = some l) :
    (a.verdictOn { settings with strict := true } d l).occurrences =
      if Lookup.interpolates call then []
      else (a.verdictOn { settings with strict := false } d l).occurrences := by
  rw [verdictOn, verdictOn, ofLookup?_strict h]
  cases Lookup.interpolates call <;> rfl

end Hint

/-! ## Uses with their calls -/

/-- A use of a key with the call from which it comes. -/
structure Use where
  /-- The call, in code or in a comment. -/
  call : Node
  /-- What the call is: a lookup or a record helper. -/
  site : Site
  /-- The use. -/
  occurrence : Occurrence

/-- Does a use come from a lookup of an interpolated key? -/
def Use.isInterpolated (u : Use) : Bool := u.site.interpolates u.call

theorem Use.filter_map_mk (call : Node) (site : Site) (os : List Occurrence) :
    ((os.map (Use.mk call site)).filter (!·.isInterpolated)).map (·.occurrence) =
      if site.interpolates call then [] else os := by
  rw [List.filter_map, List.map_map]
  cases h : site.interpolates call <;> simp [Function.comp_def, isInterpolated, h]

namespace Outline.Trail

/-- The sites at the end of a trail, each with its call. -/
def calls (settings : Settings) (num : Trail → Nat) : Trail → List (Node × Placed)
  | [] => []
  | (number, x) :: around => (placed settings num ((number, x) :: around)).map (x.node, ·)

theorem map_snd_calls (settings : Settings) (num : Trail → Nat) (t : Trail) :
    (calls settings num t).map (·.2) = placed settings num t := by
  cases t with
  | nil => rfl
  | cons v around => simp [calls, Function.comp_def]

theorem site_mem_ofCall {settings : Settings} {num : Trail → Nat} {t : Trail} {c : Node × Placed}
    (h : c ∈ calls settings num t) : c.2.site ∈ Site.ofCall settings c.1 := by
  cases t with
  | nil => cases h
  | cons v around =>
    obtain ⟨p, hp, rfl⟩ := List.mem_map.mp h
    obtain ⟨s, hs, rfl⟩ := List.mem_map.mp hp
    rw [Visit.sites_frame] at hs
    cases hcall : v.2.isCall settings with
    | false =>
      rw [hcall] at hs
      cases hs
    | true =>
      rw [hcall] at hs
      exact hs

/-- The sites of a file, each with its call. -/
def fileCalls (settings : Settings) (root : Node) : List (Node × Placed) :=
  (walk settings root).flatMap (calls settings (spaceNumber settings root))

theorem map_snd_fileCalls (settings : Settings) (root : Node) :
    (fileCalls settings root).map (·.2) = (Index.ofTree settings root).sites := by
  rw [sites_ofTree, fileCalls, List.map_flatMap]
  simp only [map_snd_calls]

end Outline.Trail

namespace Scan

variable (parse : Parser) (settings : Settings) (d : Document) (root : Node)

/-- The uses of keys that the calls in code give. -/
def codeUses : List Use :=
  (Outline.Trail.fileCalls settings root).flatMap fun c =>
    (Resolve.verdictAt settings d (Index.ofTree settings root) c.2).occurrences.map
      (Use.mk c.1 c.2.site)

/-- The uses of keys that the lookups in comments declare. -/
def commentUses : List Use :=
  (Hint.declarations settings d).flatMap fun a =>
    if (a.root parse).tag.hasError then []
    else ((a.root parse).preorder.filter (·.kind = .call)).flatMap fun call =>
      (Lookup.ofCall? settings call).toList.flatMap fun l =>
        (a.verdictOn settings d l).occurrences.map (Use.mk call (.lookup l))

/-- The uses of keys in a file, each with the call from which it comes. -/
def uses : List Use := commentUses parse settings d ++ codeUses settings d root

variable {parse settings d root}

theorem map_occurrence_codeUses :
    (codeUses settings d root).map (·.occurrence) =
      (Resolve.verdicts settings d (Index.ofTree settings root)).flatMap Verdict.occurrences := by
  rw [codeUses, List.map_flatMap, Resolve.verdicts, ← Outline.Trail.map_snd_fileCalls,
    List.flatMap_map, List.flatMap_map]
  simp [Function.comp_def]

theorem map_occurrence_commentUses :
    (commentUses parse settings d).map (·.occurrence) = Hint.occurrences parse settings d := by
  rw [commentUses, List.map_flatMap, Hint.occurrences_eq, Hint.verdicts, List.flatMap_assoc]
  refine List.flatMap_congr fun a _ => ?_
  rw [Hint.Declaration.verdicts]
  split
  · rfl
  · rw [List.map_flatMap, Hint.lookups_eq, List.filterMap_eq_flatMap_toList, List.map_flatMap,
      List.flatMap_assoc]
    refine List.flatMap_congr fun call _ => ?_
    simp [List.map_flatMap, List.flatMap_map, Function.comp_def]

/-- In code a strict scan gives the uses whose keys are not interpolated. -/
theorem codeUses_strict :
    (Resolve.verdicts { settings with strict := true } d
        (Index.ofTree { settings with strict := true } root)).flatMap Verdict.occurrences =
      ((codeUses { settings with strict := false } d root).filter (!·.isInterpolated)).map
        (·.occurrence) := by
  have hindex : Index.ofTree { settings with strict := true } root =
      Index.ofTree { settings with strict := false } root :=
    Index.ofTree_strict { settings with strict := false } true root
  rw [codeUses, List.filter_flatMap, List.map_flatMap, Resolve.verdicts, hindex,
    ← Outline.Trail.map_snd_fileCalls, List.flatMap_map, List.flatMap_map]
  refine List.flatMap_congr fun c hc => ?_
  obtain ⟨t, -, hc⟩ := List.mem_flatMap.mp hc
  have hsite : c.2.site ∈ Site.ofCall settings c.1 := (Outline.Trail.site_mem_ofCall hc :)
  rw [Use.filter_map_mk]
  exact Resolve.occurrences_strict hsite

/-- In comments a strict scan gives the uses whose keys are not interpolated. -/
theorem commentUses_strict :
    Hint.occurrences parse { settings with strict := true } d =
      ((commentUses parse { settings with strict := false } d).filter (!·.isInterpolated)).map
        (·.occurrence) := by
  have hdeclarations : Hint.declarations { settings with strict := true } d =
      Hint.declarations { settings with strict := false } d := rfl
  have hcalls : Lookup.ofCall? { settings with strict := true } =
      Lookup.ofCall? { settings with strict := false } := rfl
  rw [← map_occurrence_commentUses, commentUses, commentUses, hdeclarations, hcalls,
    List.filter_flatMap, List.map_flatMap, List.map_flatMap]
  refine List.flatMap_congr fun a _ => ?_
  split
  · rfl
  · rw [List.filter_flatMap, List.map_flatMap, List.map_flatMap]
    refine List.flatMap_congr fun call _ => ?_
    rw [List.filter_flatMap, List.map_flatMap, List.map_flatMap]
    refine List.flatMap_congr fun l hl => ?_
    have hlookup : Lookup.ofCall? settings call = some l := Option.mem_toList.mp hl
    rw [Use.filter_map_mk, List.map_map]
    exact (List.map_id _).trans (a.occurrences_strict hlookup)

/-- What a scan gives, unless it is stopped. -/
theorem document_outcome_uses :
    (document parse settings d root).outcome =
      match Resolve.stopped? settings d (Index.ofTree settings root) with
      | some methods => .error (.cyclic (some d.path) methods)
      | none => .ok ((uses parse settings d root).map (·.occurrence)) := by
  rw [document_outcome_eq, Resolve.outcome_eq, uses, List.map_append, map_occurrence_commentUses,
    map_occurrence_codeUses]
  cases Resolve.stopped? settings d (Index.ofTree settings root) <;> rfl

theorem uses_strict :
    (uses parse { settings with strict := true } d root).map (·.occurrence) =
      ((uses parse { settings with strict := false } d root).filter (!·.isInterpolated)).map
        (·.occurrence) := by
  rw [uses, uses, List.map_append, List.filter_append, List.map_append, map_occurrence_codeUses,
    map_occurrence_commentUses, codeUses_strict, commentUses_strict]

/-- **Strictness only takes interpolated keys away.** A strict scan fails as any other scan does; if
it does not fail, it gives the same uses in the same order, less those that come from a lookup of an
interpolated key. -/
theorem strict_outcome (parse : Parser) (settings : Settings) (path text : String) (root : Node) :
    let lax := (withTree parse { settings with strict := false } path text root).outcome
    let strict := (withTree parse { settings with strict := true } path text root).outcome
    let uses := Scan.uses parse { settings with strict := false } (.ofText path text) root
    (∃ fault, lax = .error fault ∧ strict = .error fault) ∨
      (lax = .ok (uses.map (·.occurrence)) ∧
        strict = .ok ((uses.filter (!·.isInterpolated)).map (·.occurrence))) := by
  intro lax strict uses
  cases hfault : root.fault? (some path) with
  | some fault =>
    have hfails : ∀ settings, (withTree parse settings path text root).outcome = .error fault := by
      intro settings
      rw [withTree, hfault]
    exact .inl ⟨fault, hfails _, hfails _⟩
  | none =>
    have hreads : ∀ settings, (withTree parse settings path text root).outcome =
        (document parse settings (.ofText path text) root).outcome := by
      intro settings
      rw [withTree, hfault]
    have hlax : lax = _ := (hreads _).trans document_outcome_uses
    have hstrict : strict = _ := (hreads _).trans document_outcome_uses
    rw [Index.ofTree_strict, Resolve.stopped?_strict] at hlax hstrict
    cases hstopped : Resolve.stopped? settings (.ofText path text) (Index.ofTree settings root) with
    | some methods =>
      rw [hstopped] at hlax hstrict
      exact .inl ⟨_, hlax, hstrict⟩
    | none =>
      rw [hstopped] at hlax hstrict
      exact .inr ⟨hlax, hstrict.trans (congrArg Except.ok uses_strict)⟩

end Scan

end LocaleKeys

import LocaleKeys.Proofs.Attribution
import LocaleKeys.Proofs.Hints
import LocaleKeys.Proofs.PlainMode
import LocaleKeys.Proofs.WordBreaks

/-!
# Proofs: keys are qualified

Every use of a key that a scan gives has a key in full: it is not empty and does not begin with a
dot. There are four ways to such a key, and each of them takes care of its first character: a scope
and a key lose the dots at their start, the key of a record helper begins with a fixed word, and a
relative key stands behind the segments of a controller, which are the controller's names in lower
case.
-/

namespace LocaleKeys

open Ast

/-- A key, or a name that begins one: it is not empty and does not begin with a dot. -/
def Key.IsQualified (s : String) : Prop := s ≠ "" ∧ Key.isRelative s = false

theorem Key.isQualified_iff {s : String} :
    Key.IsQualified s ↔ ∃ c, s.toList.head? = some c ∧ c ≠ '.' := by
  have hempty : s = "" ↔ s.toList = [] := by simp
  rw [IsQualified, isRelative, hempty.ne]
  cases s.toList with
  | nil => simp
  | cons c cs => simp

/-! ## Names in lower case -/

namespace Text

theorem ofNat_ne_dot {n : Nat} (h : 46 < n) : Char.ofNat n ≠ '.' := by
  intro hdot
  by_cases hvalid : n.isValidChar
  · rw [Char.ofNat, dif_pos hvalid] at hdot
    have hcode : n = 46 := congrArg Char.toNat hdot
    omega
  · rw [Char.ofNat, dif_neg hvalid] at hdot
    exact absurd hdot (by decide)

/-- No character has a dot as its lower-case form but the dot. -/
theorem lowerChar_ne_dot {c : Char} (h : c ≠ '.') : lowerChar c ≠ '.' := by
  have hrows : ∀ r ∈ lowerRows, 46 < (r.first : Int) + r.shift := by decide +kernel
  unfold lowerChar
  split
  · rename_i r hr
    have hrow := hrows r (List.mem_of_find?_eq_some hr)
    have hholds := List.find?_some hr
    simp only [LowerRow.holds, Bool.and_eq_true, decide_eq_true_eq] at hholds
    have hfirst : r.first ≤ c.toNat := hholds.1.1
    apply ofNat_ne_dot
    omega
  · exact h

theorem head?_lower {c : Char} (h : c ≠ '.') (cs : List Char) :
    ∃ d, (lower (c :: cs)).head? = some d ∧ d ≠ '.' := by
  rw [lower, lowerAfter]
  by_cases hsigma : c = 'Σ'
  · by_cases hends : endsWord [] cs = true
    · exact ⟨'ς', by simp [hsigma, hends], by decide⟩
    · exact ⟨'σ', by simp [hsigma, hends], by decide⟩
  · by_cases hi : c = 'İ'
    · exact ⟨'i', by simp [hi], by decide⟩
    · exact ⟨lowerChar c, by simp [hsigma, hi], lowerChar_ne_dot h⟩

end Text

namespace Name

/-- The key segment of a name can begin a key if the name can. -/
theorem isQualified_underscore {name : String} (h : Key.IsQualified name) :
    Key.IsQualified (underscore name) := by
  obtain ⟨c, hc, hdot⟩ := Key.isQualified_iff.mp h
  have hbroken : (breakWords (breakAcronyms name.toList)).head? = some c := by
    rw [breakWords_eq, head?_brokenBy, breakAcronyms_eq, head?_brokenBy, hc]
  obtain ⟨cs, hcs⟩ : ∃ cs, breakWords (breakAcronyms name.toList) = c :: cs :=
    List.head?_eq_some_iff.mp hbroken
  have hdash : joinDash c ≠ '.' := by
    unfold joinDash
    split
    · decide
    · exact hdot
  obtain ⟨d, hd, hd'⟩ := Text.head?_lower hdash (cs.map joinDash)
  refine Key.isQualified_iff.mpr ⟨d, ?_, hd'⟩
  rw [underscore, String.toList_ofList, hcs, List.map_cons, hd]

theorem isQualified_stripSuffix {name : String} (h : Key.IsQualified name) (suffix : String) :
    Key.IsQualified (stripSuffix name suffix) := by
  unfold stripSuffix
  split
  · rename_i hends
    have hlt : suffix.length < name.length := by simpa using (Bool.and_eq_true_iff.mp hends).2
    obtain ⟨c, hc, hdot⟩ := Key.isQualified_iff.mp h
    refine Key.isQualified_iff.mpr ⟨c, ?_, hdot⟩
    rw [String.toList_ofList, List.head?_take, if_neg (by omega), hc]
  · exact h

end Name

/-! ## Keys -/

namespace Key

@[simp]
theorem join_nil : join [] = "" := rfl

@[simp]
theorem join_singleton (s : String) : join [s] = s := by simp [join]

theorem join_cons {ss : List String} (hss : ss ≠ []) (s : String) :
    join (s :: ss) = s ++ "." ++ join ss := by
  have hmap : ss.map String.toList ≠ [] := by simpa using hss
  rw [← String.toList_inj, join, join, List.map_cons, List.intercalate_cons_of_ne_nil hmap]
  simp

theorem join_append {a b : List String} (ha : a ≠ []) (hb : b ≠ []) :
    join (a ++ b) = join a ++ "." ++ join b := by
  induction a with
  | nil => exact absurd rfl ha
  | cons s a ih =>
    by_cases hnil : a = []
    · rw [hnil, List.singleton_append, join_singleton, join_cons hb]
    · have hmore : a ++ b ≠ [] := List.append_ne_nil_of_left_ne_nil hnil b
      rw [List.cons_append, join_cons hmore, join_cons hnil, ih hnil]
      simp only [String.append_assoc]

theorem isQualified_join {s : String} (h : IsQualified s) (ss : List String) :
    IsQualified (join (s :: ss)) := by
  by_cases hss : ss = []
  · rwa [hss, join_singleton]
  · obtain ⟨c, hc, hdot⟩ := isQualified_iff.mp h
    refine isQualified_iff.mpr ⟨c, ?_, hdot⟩
    rw [join_cons hss]
    simp [hc]

theorem isQualified_stripDots {s : String} (h : stripDots s ≠ "") : IsQualified (stripDots s) := by
  refine ⟨h, ?_⟩
  have hhead := List.head?_dropWhile_not (· = '.') s.toList
  rw [isRelative, stripDots, String.toList_ofList]
  cases hd : (s.toList.dropWhile (· = '.')).head? with
  | none => rfl
  | some c =>
    rw [hd] at hhead
    simpa using hhead

theorem isQualified_absolute? {key full : String} {options : Options}
    (h : absolute? key options = some full) (hne : full ≠ "") : IsQualified full := by
  obtain ⟨scope, -, rfl⟩ := Option.map_eq_some_iff.mp h
  exact isQualified_stripDots hne

theorem isQualified_record (ss : List String) : IsQualified (join ("activerecord" :: ss)) :=
  isQualified_join ⟨by decide, by decide⟩ ss

end Key

/-! ## Namespaces -/

/-- The key segments of a namespace can begin a key, and there is one for each of its constants. -/
structure Space.IsQualified (s : Space) : Prop where
  length_eq : s.segments.length = s.constants.length
  segments : ∀ segment ∈ s.segments, Key.IsQualified segment

theorem Space.IsQualified.within {outer inner : Space} (houter : outer.IsQualified)
    (hinner : inner.IsQualified) : (outer.within inner).IsQualified where
  length_eq := by
    simp only [Space.within, List.length_append, houter.length_eq, hinner.length_eq]
  segments := by
    intro segment h
    rcases List.mem_append.mp h with h | h
    · exact houter.segments segment h
    · exact hinner.segments segment h

namespace Outline

theorem isQualified_spaceOf (settings : Settings) {definition : Node}
    (h : ∀ name ∈ (spaceOf settings definition).constants, Key.IsQualified name) :
    (spaceOf settings definition).IsQualified := by
  simp only [spaceOf] at h ⊢
  generalize ((definition.child? .name).map Node.constantPath).getD [] = names at h
  by_cases hclass : definition.kind = .classDef
  · constructor
    · rcases List.eq_nil_or_concat names with rfl | ⟨front, last, rfl⟩ <;> simp [hclass]
    · simp only [hclass, if_true]
      intro segment hsegment
      rcases List.mem_append.mp hsegment with hsegment | hsegment
      · obtain ⟨name, hname, rfl⟩ := List.mem_map.mp hsegment
        exact Name.isQualified_underscore (h name (List.dropLast_subset _ hname))
      · obtain ⟨last, hlast, rfl⟩ := Option.map_eq_some_iff.mp (Option.mem_toList.mp hsegment)
        have hqualified := h last (List.mem_of_getLast? hlast)
        exact Name.isQualified_underscore (Name.isQualified_stripSuffix hqualified _)
  · constructor
    · simp [hclass]
    · simp only [hclass]
      intro segment hsegment
      obtain ⟨name, hname, rfl⟩ := List.mem_map.mp hsegment
      exact Name.isQualified_underscore (h name hname)

namespace Trail

theorem isQualified_spaceAt {settings : Settings} {t : Trail}
    (h : ∀ v ∈ t, v.2.opens = true → (spaceOf settings v.2.node).IsQualified) :
    (spaceAt settings t).IsQualified := by
  induction t with
  | nil => exact ⟨rfl, by simp [spaceAt, Space.root]⟩
  | cons v around ih =>
    obtain ⟨hv, haround⟩ := List.forall_mem_cons.mp h
    rw [spaceAt]
    split
    · exact (ih haround).within (hv ‹_›)
    · exact ih haround

end Trail

/-- Is a node the definition of a class or module? -/
def opensSpace (n : Node) : Prop := n.kind = .classDef ∨ n.kind = .moduleDef

theorem Visit.opensSpace_of_opens {x : Visit} (h : x.opens = true) : opensSpace x.node := by
  unfold opens at h
  split at h
  · simpa [opensSpace] using h
  · cases h

/-- If the names of classes and modules can begin keys, then so can the segments of all
namespaces. -/
theorem isQualified_context {settings : Settings} {root : Node}
    (hnames : ∀ n, root.Holds n → opensSpace n →
      ∀ name ∈ (spaceOf settings n).constants, Key.IsQualified name)
    {c : Context} (hc : c ∈ (Index.ofTree settings root).contexts) : c.space.IsQualified := by
  rw [Trail.contexts_ofTree] at hc
  obtain ⟨t, ht, rfl⟩ := List.mem_map.mp hc
  have hspace : (Trail.context settings root t).space = Trail.spaceAt settings t := by
    cases t <;> rfl
  rw [hspace]
  refine Trail.isQualified_spaceAt fun v hv hopens => ?_
  have hreached : Trail.Reached settings root t := by
    rcases List.mem_cons.mp ht with rfl | ht
    · cases hv
    · exact Trail.Reached.of_mem_walk (List.mem_filter.mp ht).1
  exact isQualified_spaceOf settings
    (hnames v.2.node (hreached.holds v hv) (Visit.opensSpace_of_opens hopens))

end Outline

/-! ## Uses of keys -/

/-- A use with a key in full, whose key is also written somewhere. -/
def Occurrence.IsQualified (o : Occurrence) : Prop := Key.IsQualified o.key ∧ o.raw ≠ ""

theorem Lookup.isQualified_occurrence {l : Lookup} {d : Document} {key : StringLit} {full : String}
    (hkey : l.key = some key) (htext : key.text ≠ "") (hfull : Key.IsQualified full) :
    (l.occurrence d full).IsQualified := by
  refine ⟨hfull, ?_⟩
  simpa [occurrence, hkey] using htext

theorem Helper.isQualified_verdict {h : Helper} {d : Document} {o : Occurrence}
    (ho : o ∈ (h.verdict d).occurrences) : o.IsQualified := by
  have hrecord : ∀ ss, (h.occurrence d (Key.join ("activerecord" :: ss))).IsQualified :=
    fun ss => ⟨Key.isQualified_record ss, (Key.isQualified_record ss).1⟩
  unfold verdict at ho
  split at ho
  · rw [List.mem_singleton.mp ho]
    exact hrecord _
  · split at ho
    · split at ho
      · cases ho
      · rw [List.mem_singleton.mp ho]
        exact hrecord _
    · cases ho

namespace Resolve

variable {settings : Settings} {d : Document} {index : Index}

theorem segments_of_applies {path : String} {c : Context}
    (happlies : applies settings path c = true) (hspace : c.space.IsQualified) :
    ∃ s ss, c.space.segments = s :: ss ∧ Key.IsQualified s := by
  have hconstants : c.space.constants ≠ [] := by
    rintro hnil
    simp [applies, hnil] at happlies
  cases hsegments : c.space.segments with
  | nil =>
    have hlength := hspace.length_eq
    rw [hsegments] at hlength
    exact absurd (List.length_eq_zero_iff.mp hlength.symm) hconstants
  | cons s ss =>
    exact ⟨s, ss, rfl, hspace.segments s (by rw [hsegments]; exact List.mem_cons_self)⟩

theorem isQualified_relative {p : Placed} {l : Lookup} {key : StringLit} {k : String}
    (hspaces : ∀ c ∈ index.contexts, c.space.IsQualified) (hkey : l.key = some key)
    (htext : key.text ≠ "") {verdict : Verdict}
    (h : relative settings d index p l k = .ok verdict) :
    ∀ o ∈ verdict.occurrences, o.IsQualified := by
  unfold relative at h
  split at h
  · cases h
    exact List.forall_mem_nil _
  · rename_i c hc
    split at h
    · cases h
      exact List.forall_mem_nil _
    · rename_i g hg
      have happlies : applies settings d.path c = true := by
        by_contra hnot
        rw [graph?, if_neg hnot] at hg
        cases hg
      obtain ⟨s, ss, hsegments, hs⟩ :=
        segments_of_applies happlies (hspaces c (List.mem_of_getElem? hc))
      split at h
      · cases h
      · cases h
        exact List.forall_mem_nil _
      · cases h
        intro o ho
        obtain ⟨action, -, rfl⟩ := List.mem_map.mp ho
        refine Lookup.isQualified_occurrence hkey htext ?_
        rw [hsegments]
        exact Key.isQualified_join hs _

/-- The uses of every site are qualified, if the namespaces of the index are. -/
theorem isQualified_verdictAt (hspaces : ∀ c ∈ index.contexts, c.space.IsQualified) (p : Placed) :
    ∀ o ∈ (verdictAt settings d index p).occurrences, o.IsQualified := by
  have hok : ∀ verdict, site settings d index p = .ok verdict →
      ∀ o ∈ verdict.occurrences, o.IsQualified := by
    intro verdict hsite
    unfold site at hsite
    cases hp : p.site with
    | helper h =>
      rw [hp] at hsite
      cases hmode : settings.mode with
      | plain =>
        rw [hmode] at hsite
        cases hsite
        exact List.forall_mem_nil _
      | conventions =>
        rw [hmode] at hsite
        cases hsite
        exact fun o ho => Helper.isQualified_verdict ho
    | lookup l =>
      have hreads := l.reads settings
      simp only [hp] at hsite
      generalize l.reading settings = reading at hreads hsite
      cases hreads with
      | unusable reason =>
        cases hsite
        exact List.forall_mem_nil _
      | complete hkey htext _ hfull hne =>
        cases hsite
        exact List.forall_mem_singleton.mpr
          (Lookup.isQualified_occurrence hkey htext (Key.isQualified_absolute? hfull hne))
      | relative hkey htext _ _ =>
        cases hmode : settings.mode with
        | plain =>
          simp only [hmode] at hsite
          cases hsite
          exact List.forall_mem_nil _
        | conventions =>
          simp only [hmode] at hsite
          exact isQualified_relative hspaces hkey htext hsite
  rw [verdictAt]
  split
  · exact hok _ ‹_›
  · exact List.forall_mem_nil _

end Resolve

/-! ## Uses that comments declare -/

namespace Hint

theorem isQualified_of_ofLookup? {settings : Settings} {l : Lookup} {h : Hint}
    (hl : ofLookup? settings l = some h) : Key.IsQualified h.key ∧ h.raw ≠ "" := by
  unfold ofLookup? at hl
  split at hl
  · cases hl
  · rename_i key _
    split at hl
    · cases hl
    · rename_i htest
      split at hl
      · rename_i full hfull
        split at hl
        · cases hl
        · rename_i hne
          have htext : key.text ≠ "" := by
            intro hempty
            simp [hempty] at htest
          cases hl
          exact ⟨Key.isQualified_absolute? hfull hne, htext⟩
      · cases hl

/-- Every use that a comment declares comes from a lookup in it. -/
theorem exists_ofLookup?_of_mem {parse : Parser} {settings : Settings} {d : Document}
    {o : Occurrence} (ho : o ∈ occurrences parse settings d) :
    ∃ l h line, ofLookup? settings l = some h ∧ o = h.occurrence d.path line := by
  rw [occurrences_eq] at ho
  obtain ⟨verdict, hverdict, ho⟩ := List.mem_flatMap.mp ho
  obtain ⟨a, -, hverdict⟩ := List.mem_flatMap.mp hverdict
  rw [Declaration.verdicts] at hverdict
  split at hverdict
  · rw [List.mem_singleton.mp hverdict] at ho
    cases ho
  · obtain ⟨l, -, rfl⟩ := List.mem_map.mp hverdict
    rw [Declaration.verdictOn] at ho
    cases hl : ofLookup? settings l with
    | none =>
      rw [hl] at ho
      cases ho
    | some h =>
      rw [hl] at ho
      exact ⟨l, h, _, hl, List.mem_singleton.mp ho⟩

theorem isQualified_occurrences {parse : Parser} {settings : Settings} {d : Document}
    {o : Occurrence} (ho : o ∈ occurrences parse settings d) : o.IsQualified := by
  obtain ⟨l, h, line, hl, rfl⟩ := exists_ofLookup?_of_mem ho
  exact isQualified_of_ofLookup? hl

end Hint

/-! ## Scans -/

namespace Scan

/-- In a tree whose classes and modules have names that are not empty and do not begin with a dot,
every use that a scan gives has a key that is not empty and does not begin with a dot, and a key as
it is written that is not empty. -/
theorem keys_qualified (parse : Parser) (settings : Settings) (path text : String) (root : Node)
    (hnames : ∀ n, root.Holds n → n.kind = .classDef ∨ n.kind = .moduleDef →
      ∀ constant, n.child? .name = some constant → ∀ name ∈ constant.constantPath,
        name ≠ "" ∧ name.toList.head? ≠ some '.')
    {occurrences : List Occurrence}
    (h : (withTree parse settings path text root).outcome = .ok occurrences) :
    ∀ o ∈ occurrences, o.key ≠ "" ∧ o.key.toList.head? ≠ some '.' ∧ o.raw ≠ "" := by
  have hspaces : ∀ c ∈ (Index.ofTree settings root).contexts, c.space.IsQualified := by
    refine fun c hc => Outline.isQualified_context (fun n hn hopens name hname => ?_) hc
    cases hconstant : n.child? .name with
    | none => simp [Outline.spaceOf, hconstant] at hname
    | some constant =>
      have hmem : name ∈ constant.constantPath := by
        simpa [Outline.spaceOf, hconstant] using hname
      obtain ⟨hne, hdot⟩ := hnames n hn hopens constant hconstant name hmem
      exact ⟨hne, by simpa [Key.isRelative] using hdot⟩
  rw [withTree_eq_document (hasError_of_ok h)] at h
  have huses := document_outcome_of_not_stopped parse _ _ root (not_stopped_of_ok parse _ _ root h)
  rw [map_snd_traced] at huses
  obtain rfl := Except.ok.inj (h.symm.trans huses)
  intro o ho
  have hqualified : o.IsQualified := by
    rcases List.mem_append.mp ho with ho | ho
    · exact Hint.isQualified_occurrences ho
    · obtain ⟨verdict, hverdict, ho⟩ := List.mem_flatMap.mp ho
      obtain ⟨p, -, rfl⟩ := List.mem_map.mp hverdict
      exact Resolve.isQualified_verdictAt hspaces p o ho
  obtain ⟨⟨hne, hdot⟩, hraw⟩ := hqualified
  exact ⟨hne, by simpa [Key.isRelative] using hdot, hraw⟩

theorem keys_qualified_events :
    ∃ occurrences, (eventsScan .conventions).outcome = .ok occurrences ∧ occurrences.length = 4 ∧
      ∀ o ∈ occurrences, o.key ≠ "" ∧ o.key.toList.head? ≠ some '.' ∧ o.raw ≠ "" := by
  have hnames : ∀ n, eventsController.Holds n → n.kind = .classDef ∨ n.kind = .moduleDef →
      ∀ constant, n.child? .name = some constant → ∀ name ∈ constant.constantPath,
        name ≠ "" ∧ name.toList.head? ≠ some '.' := by
    intro n hn hkind constant hconstant
    have htest : eventsController.everywhere (fun n =>
        (n.child? .name).all fun constant =>
          constant.constantPath.all fun name => name ≠ "" && name.toList.head? ≠ some '.') =
        true := by
      decide +kernel
    have hn := Node.everywhere_iff.mp htest n hn
    simpa [hconstant] using hn
  have hlength : (eventsScan .conventions).outcome.map List.length = .ok 4 := by decide +kernel
  cases hok : (eventsScan .conventions).outcome with
  | error fault =>
    rw [hok] at hlength
    cases hlength
  | ok occurrences =>
    rw [hok] at hlength
    exact ⟨occurrences, rfl, Except.ok.inj hlength, keys_qualified _ _ _ _ _ hnames hok⟩

end Scan

end LocaleKeys

import LocaleKeys.Proofs.HintKeys
import LocaleKeys.Proofs.Positions
import LocaleKeys.Proofs.QualifiedKeys
import Mathlib.Data.List.TakeWhile

/-!
# Proofs: code in the arguments of callbacks

A call that registers a callback may be given code: a lambda or any other positional argument that
is not the name of a method, and a block. Every call in such code is looked at like one elsewhere,
and each once, so no lookup in it is lost. The options of the call are not looked at: a lookup in
the lambda of an `if:` is no call site.
-/

namespace LocaleKeys

open Ast Outline

namespace Way

/-! ## Code inside other code -/

/-- Is all code of the node at a position looked at? A definition of a method has a name then, and
a call in a body does no more than other calls. -/
def isOpen (settings : Settings) : Way → Bool
  | [] => false
  | p :: around =>
    !isSilent p.node.kind && (p.node.kind ≠ .method || (p.node.child? .name).isSome) &&
      (p.node.kind ≠ .call || !isBodyLevel (p :: around) || (bodyCall settings p.node).isPlain)

/-- A position lies in the code at another one: it is a part of it, or of a part of it. -/
inductive InCodeOf (settings : Settings) (start : Way) : Way → Prop where
  /-- The code itself. -/
  | self : InCodeOf settings start start
  /-- A part of some code in it. -/
  | part {p s : Step} {around : Way} (h : InCodeOf settings start (p :: around))
      (hopen : isOpen settings (p :: around) = true) (hpart : isPart p.node s = true) :
      InCodeOf settings start (s :: p :: around)

/-- The code that a call which registers a callback is given. -/
inductive Given (call : Step) (around : Way) : Way → Prop where
  /-- A positional argument that is not the name of a method. -/
  | argument {list a : Step} (hlist : isFirst (Node.plays .arguments) list = true)
      (ha : isGivenCode list.node a = true) : Given call around (a :: list :: call :: around)
  /-- The block. -/
  | block {b : Step} (hlist : isFirst (Node.plays .arguments) b = false)
      (hb : isFirst (blockTest call.node.children) b = true) :
      Given call around (b :: call :: around)

section Code

variable {settings : Settings}

/-- A part of a body with members of its own is looked at as its position tells. -/
theorem exists_enterBody {p s : Step} {around : Way} {place : Place}
    (hpart : isPart p.node s = true) (hspace : place = .body → isSpace p.node = true) :
    ∃ standing, enterBody place p.node s = some standing ∧
      Fits (s :: p :: around) ⟨s.node, standing, .pub⟩ := by
  rw [enterBody, if_pos hpart]
  refine ⟨_, rfl, ?_⟩
  by_cases hbody : (hasBody p.node.children && s.node.kind = .bodyStatement) = true
  · obtain ⟨hhas, hkind⟩ := Bool.and_eq_true_iff.mp hbody
    rw [decide_eq_true_eq] at hkind
    rw [if_pos hbody]
    refine ⟨hkind, fun hplace s' => ?_⟩
    simp [isBodyLevel, hkind, hspace hplace, hhas]
  · rw [if_neg hbody]
    intro hplace
    rw [isBodyLevel, hspace hplace, Bool.eq_false_iff.mpr hbody]
    rfl

/-- Open code holds no call that does more than other calls. -/
theorem callAt_eq_plain {p : Step} {around : Way} {place : Place}
    (hplace : place = .body → isBodyLevel (p :: around) = true)
    (hopen : isOpen settings (p :: around) = true) (hkind : p.node.kind = .call) :
    Visit.callAt settings place p.node = .plain := by
  rw [Visit.callAt]
  split
  · rename_i hbody
    have hplain : (bodyCall settings p.node).isPlain = true := by
      simpa [hkind, hplace hbody] using (Bool.and_eq_true_iff.mp hopen).2
    cases hcall : bodyCall settings p.node with
    | plain => rfl
    | wrapper | directive | callback =>
      rw [hcall] at hplain
      cases hplain
  · rfl

/-- A part of open code is looked at as its position tells. -/
theorem exists_enterCode {p s : Step} {around : Way} {place : Place}
    (hplace : place = .body → isBodyLevel (p :: around) = true)
    (hopen : isOpen settings (p :: around) = true) (hpart : isPart p.node s = true) :
    ∃ standing, enterCode settings place p.node s = some standing ∧
      Fits (s :: p :: around) ⟨s.node, standing, .pub⟩ := by
  have hopen' := hopen
  rw [isOpen, Bool.and_eq_true, Bool.and_eq_true, Bool.not_eq_true'] at hopen'
  obtain ⟨⟨hsilent, hnamed⟩, -⟩ := hopen'
  have hinside : Fits (s :: p :: around) ⟨s.node, .code .inside, .pub⟩ :=
    fits_inside _ .pub s.node
  cases hkind : p.node.kind with
  | classDef | moduleDef =>
    simp only [enterCode, hkind]
    exact exists_enterBody hpart fun _ => by simp [isSpace, hkind]
  | singletonClass =>
    simp only [enterCode, hkind]
    exact exists_enterBody hpart fun h => by cases h
  | method =>
    have hname : (p.node.child? .name).isSome = true := by simpa [hkind] using hnamed
    exact ⟨_, by simp [enterCode, hkind, hname, hpart], hinside⟩
  | call =>
    have hcall := callAt_eq_plain hplace hopen hkind
    exact ⟨_, by simp [enterCode, hkind, hcall, enterCall, hpart], hinside⟩
  | _ =>
    rw [hkind] at hsilent
    exact ⟨_, by simp [enterCode, hkind, hsilent, hpart], hinside⟩

/-- Code inside code that is looked at is looked at, as its position tells. -/
theorem InCodeOf.exists_standing {start w : Way} {place : Place} (h : InCodeOf settings start w)
    (hstart : standing? settings start = some (.code place))
    (hplace : place = .body → isBodyLevel start = true) :
    ∃ s around standing, w = s :: around ∧ standing? settings w = some standing ∧
      Fits w ⟨s.node, standing, .pub⟩ := by
  induction h with
  | self =>
    cases start with
    | nil => cases hstart
    | cons s around => exact ⟨s, around, _, rfl, hstart, hplace⟩
  | part h hopen hpart ih =>
    rename_i p s around
    obtain ⟨p', around', standing, heq, hstanding, hfits⟩ := ih
    obtain ⟨rfl, rfl⟩ := List.cons.inj heq
    have henter : ∃ standing', enter settings p.node s standing = some standing' ∧
        Fits (s :: p :: around) ⟨s.node, standing', .pub⟩ := by
      cases standing with
      | code place => exact exists_enterCode hfits hopen hpart
      | statements place =>
        have hkind : p.node.kind = .bodyStatement := hfits.1
        have hs : s.node.isNamed = true := by simpa only [isPart, hkind] using hpart
        exact ⟨.code place, by rw [enter, if_pos hs], fun hplace => hfits.2 hplace s⟩
      | wrapped w =>
        have hkind : p.node.kind = .other "argument_list" := hfits
        have hs : s.node.isNamed = true := by simpa only [isPart, hkind] using hpart
        exact ⟨.code .inside, by rw [enter, if_pos hs], fits_inside _ .pub s.node⟩
      | loose => cases hfits
      | arguments => cases hfits
    obtain ⟨standing', henter, hfits'⟩ := henter
    refine ⟨s, p :: around, standing', rfl, ?_, hfits'⟩
    rw [standing?, hstanding]
    exact henter

theorem siteAt_of_isCall {s : Step} {around : Way} {standing : Standing}
    (h : standing? settings (s :: around) = some standing)
    (hcall : Visit.isCall settings ⟨s.node, standing, .pub⟩ = true) :
    siteAt settings (s :: around) = Site.ofCall settings s.node := by
  rw [siteAt_cons h .pub, Visit.sites_frame, if_pos hcall]

/-- A call in code that is looked at is looked at. -/
theorem InCodeOf.siteAt_eq {start around : Way} {s : Step}
    (h : InCodeOf settings start (s :: around))
    (hstart : standing? settings start = some (.code .inside)) (hcall : s.node.kind = .call)
    (hopen : isOpen settings (s :: around) = true) :
    siteAt settings (s :: around) = Site.ofCall settings s.node := by
  obtain ⟨s', around', standing, heq, hstanding, hfits⟩ :=
    h.exists_standing hstart fun hplace => by cases hplace
  obtain ⟨rfl, rfl⟩ := List.cons.inj heq
  refine siteAt_of_isCall hstanding ?_
  cases standing with
  | code place =>
    have hplain := callAt_eq_plain hfits hopen hcall
    simp [Visit.isCall, hcall, hplain, BodyCall.isPlain]
  | statements place =>
    have hkind : s.node.kind = .bodyStatement := hfits.1
    rw [hcall] at hkind
    cases hkind
  | wrapped w =>
    have hkind : s.node.kind = .other "argument_list" := hfits
    rw [hcall] at hkind
    cases hkind
  | loose => cases hfits
  | arguments => cases hfits

end Code

/-! ## Members of bodies -/

section Members

variable {settings : Settings} {t : Step} (ht : t.node.isNamed = true)
include ht

theorem standing?_file : standing? settings [t] = some (.code .body) := by
  rw [standing?, if_pos ht]

/-- What stands in a class or module in the code of a file is looked at as its position tells. -/
theorem InCodeOf.standing?_of_isSpace {p s : Step} {around : Way}
    (h : InCodeOf settings [t] (p :: around)) (hspace : isSpace p.node = true) :
    standing? settings (s :: p :: around) = enterBody .body p.node s := by
  obtain ⟨p', around', standing, heq, hstanding, hfits⟩ :=
    h.exists_standing (standing?_file ht) fun _ => rfl
  obtain ⟨rfl, rfl⟩ := List.cons.inj heq
  have hkind : p.node.kind = .classDef ∨ p.node.kind = .moduleDef := by
    simpa [isSpace] using hspace
  rw [standing?, hstanding, Option.bind_some]
  cases standing with
  | code place => rcases hkind with hkind | hkind <;> rw [enter, enterCode, hkind]
  | statements place =>
    have hbody : p.node.kind = .bodyStatement := hfits.1
    rcases hkind with hkind | hkind <;> cases hkind.symm.trans hbody
  | wrapped w =>
    have hlist : p.node.kind = .other "argument_list" := hfits
    rcases hkind with hkind | hkind <;> cases hkind.symm.trans hlist
  | loose => cases hfits
  | arguments => cases hfits

/-- A member of a body in the code of a file is looked at as one. -/
theorem InCodeOf.standing?_member {s : Step} {around : Way}
    (h : InCodeOf settings [t] (s :: around)) (hbody : isBodyLevel (s :: around) = true) :
    standing? settings (s :: around) = some (.code .body) := by
  cases h with
  | self => exact standing?_file ht
  | part h hopen hpart =>
    rename_i p around
    rw [isBodyLevel, Bool.or_eq_true, Bool.and_eq_true, Bool.and_eq_true] at hbody
    rcases hbody with ⟨hspace, hnot⟩ | ⟨hkind, hhead⟩
    · rw [Bool.not_eq_true'] at hnot
      rw [h.standing?_of_isSpace ht hspace, enterBody, if_pos hpart,
        if_neg (Bool.eq_false_iff.mp hnot)]
    · -- the statements of a body, which the class or module around it has entered as such
      obtain ⟨d, hd, hspace⟩ := (Option.any_eq_true _ _).mp hhead
      obtain ⟨outer, rfl⟩ := List.head?_eq_some_iff.mp hd
      rw [Bool.and_eq_true] at hspace
      have hstatement : (hasBody d.node.children && p.node.kind = .bodyStatement) = true := by
        rw [hspace.2, hkind]
        rfl
      rw [decide_eq_true_eq] at hkind
      have hs : s.node.isNamed = true := by simpa only [isPart, hkind] using hpart
      cases h with
      | part hd _ hp =>
        rw [standing?, hd.standing?_of_isSpace ht hspace.1, enterBody, if_pos hp,
          if_pos hstatement, Option.bind_some, enter, if_pos hs]

end Members

/-! ## The code that a callback is given -/

section Callback

variable {settings : Settings} {call : Step} {around : Way} {r : Registration}
  (hcall : standing? settings (call :: around) = some (.code .body))
  (hkind : call.node.kind = .call) (hbody : bodyCall settings call.node = .callback r)
include hcall hkind hbody

theorem standing?_child (s : Step) :
    standing? settings (s :: call :: around) = enterCall call.node s (.callback r) := by
  have hat : Visit.callAt settings .body call.node = .callback r := by
    rw [Visit.callAt, if_pos rfl, hbody]
  rw [standing?, hcall, Option.bind_some, enter, enterCode, hkind, hat]

/-- The code that a callback is given is looked at. -/
theorem Given.standing?_eq {start : Way} (h : Given call around start) :
    standing? settings start = some (.code .inside) := by
  cases h with
  | argument hlist ha =>
    rw [standing?, standing?_child hcall hkind hbody, enterCall, if_pos hlist, Option.bind_some,
      enter, if_pos ha]
  | block hlist hb =>
    rw [standing?_child hcall hkind hbody, enterCall, if_neg (Bool.eq_false_iff.mp hlist),
      if_pos hb]

/-- Nothing else in a call that registers a callback has sites. -/
theorem exists_given {inner : Way} (hinner : inner ≠ [])
    (h : siteAt settings (inner ++ call :: around) ≠ []) :
    ∃ start, Given call around start ∧ start <:+ inner ++ call :: around := by
  have hseen : ∀ rest w : Way, w ≠ [] → rest ++ w = inner ++ call :: around →
      standing? settings w ≠ none := by
    intro rest w hw heq hnone
    apply h
    rw [← heq]
    exact siteAt_eq_nil (standing?_append_eq_none hw hnone rest)
  obtain ⟨rest, b, rfl⟩ := (List.eq_nil_or_concat' inner).resolve_left hinner
  have hb := hseen rest (b :: call :: around) (by simp) (by simp)
  rw [standing?_child hcall hkind hbody, enterCall] at hb
  by_cases hlist : isFirst (Node.plays .arguments) b = true
  · have hstanding : standing? settings (b :: call :: around) = some .arguments := by
      rw [standing?_child hcall hkind hbody, enterCall, if_pos hlist]
    rcases List.eq_nil_or_concat' rest with rfl | ⟨rest, a, rfl⟩
    · -- the argument list itself is no call
      exfalso
      apply h
      exact (siteAt_cons hstanding .pub).trans (Visit.sites_frame settings _)
    · have ha := hseen rest (a :: b :: call :: around) (by simp) (by simp)
      rw [standing?, hstanding, Option.bind_some, enter] at ha
      have hgiven : isGivenCode b.node a = true := by
        by_contra hnot
        exact ha (if_neg hnot)
      exact ⟨_, .argument hlist hgiven, rest, by simp⟩
  · rw [if_neg hlist] at hb
    have hblock : isFirst (blockTest call.node.children) b = true := by
      by_contra hnot
      exact hb (if_neg hnot)
    exact ⟨_, .block (Bool.eq_false_iff.mpr hlist) hblock, rest, by simp⟩

end Callback

end Way

/-! ## Literal keys -/

namespace Key

theorem suffix_toList_join (ss : List String) (key : String) :
    key.toList <:+ (join (ss ++ [key])).toList := by
  by_cases hss : ss = []
  · simp [hss]
  · rw [join_append hss (List.cons_ne_nil key []), join_singleton, String.toList_append]
    exact List.suffix_append _ _

/-- A key that begins with no dot gives a key in full in every scope. -/
theorem isQualified_inScope {key : String} (h : IsQualified key) (scope : List String) :
    IsQualified (inScope scope key) := by
  refine isQualified_stripDots fun hempty => ?_
  obtain ⟨c, hc, hdot⟩ := isQualified_iff.mp h
  have hsegments : (scope ++ [key]).filter (· ≠ "") = scope.filter (· ≠ "") ++ [key] := by
    simp [List.filter_append, h.1]
  have hmem : c ∈ (join ((scope ++ [key]).filter (· ≠ ""))).toList := by
    rw [hsegments]
    exact (suffix_toList_join _ key).subset (List.mem_of_mem_head? hc)
  -- nothing is left only where there are nothing but dots
  have hdots : (join ((scope ++ [key]).filter (· ≠ ""))).toList.dropWhile (· = '.') = [] := by
    simpa [stripDots] using hempty
  exact hdot (by simpa using List.dropWhile_eq_nil_iff.mp hdots c hmem)

end Key

namespace Lookup

/-- The key in full of a lookup with a literal key that begins with no dot, in a scope that is
known. -/
def literalKey? (settings : Settings) (l : Lookup) : Option String :=
  l.key.bind fun key =>
    if key.text = "" || Key.isRelative key.text || (key.interpolated && settings.strict) then none
    else Key.absolute? key.text l.options

theorem reading_of_literalKey? {settings : Settings} {l : Lookup} {full : String}
    (h : l.literalKey? settings = some full) : l.reading settings = .complete full := by
  obtain ⟨key, hkey, hfull⟩ := Option.bind_eq_some_iff.mp h
  split at hfull
  · cases hfull
  · rename_i hliteral
    simp only [Bool.or_eq_true, not_or, Bool.not_eq_true, decide_eq_true_eq] at hliteral
    obtain ⟨⟨htext, hrelative⟩, hstrict⟩ := hliteral
    obtain ⟨scope, -, rfl⟩ := Option.map_eq_some_iff.mp hfull
    have hne : Key.inScope scope key.text ≠ "" :=
      (Key.isQualified_inScope ⟨htext, hrelative⟩ scope).1
    rw [reading_of_not_relative hkey htext hstrict hrelative, withScope, hfull]
    exact if_neg hne

end Lookup

namespace Scan

variable {parse : Parser} {settings : Settings} {d : Document} {root : Node}

/-- Nothing but a cycle stops a scan, and in plain mode not even a cycle. -/
theorem not_stopped_of_not_cyclic (h : settings.mode = .conventions → ∀ path methods,
      (document parse settings d root).outcome ≠ .error (.cyclic path methods)) :
    Resolve.stopped? settings d (Index.ofTree settings root) = none := by
  cases hstopped : Resolve.stopped? settings d (Index.ofTree settings root) with
  | none => rfl
  | some methods =>
    have hmode : settings.mode = .conventions := by
      rw [Resolve.stopped?] at hstopped
      cases hmode : settings.mode with
      | plain => simp [hmode] at hstopped
      | conventions => rfl
    refine absurd ?_ (h hmode (some d.path) methods)
    rw [document_outcome_eq, Resolve.outcome_eq, hstopped]
    rfl

/-- A lookup among the call sites that has a literal key is reported. -/
theorem mem_traced {l : Lookup} {full : String}
    (hsite : .lookup l ∈ (Index.ofTree settings root).sites.map (·.site))
    (hfull : l.literalKey? settings = some full) :
    l.occurrence d full ∈ (traced parse settings d root).map (·.2) := by
  obtain ⟨p, hp, hl⟩ := List.mem_map.mp hsite
  have hverdict : Resolve.verdictAt settings d (Index.ofTree settings root) p =
      .found [l.occurrence d full] := by
    rw [Resolve.verdictAt, Resolve.site, hl]
    simp only [Lookup.reading_of_literalKey? hfull]
  rw [map_snd_traced, Resolve.verdicts, List.flatMap_map]
  refine List.mem_append_right _ (List.mem_flatMap.mpr ⟨p, hp, ?_⟩)
  rw [hverdict]
  exact List.mem_singleton_self _

end Scan

namespace Way

/-- The call sites of a file are those of the calls that are looked at, each once. In a call that
registers a callback, directly in the body of a file, class or module, every call in the code that
it is given is looked at, and nothing else is. Wherever a lookup with a literal key is looked at,
it is reported in both modes. -/
theorem callback_code_kept (settings : Settings) (root : Node)
    (hroles : root.everywhere rolesApart = true) :
    ((Index.ofTree settings root).sites.map (·.site)).Perm
      ((Way.all root).flatMap (siteAt settings)) ∧
    (∀ t s around, t.node.isNamed = true → InCodeOf settings [t] (s :: around) →
      isBodyLevel (s :: around) = true → standing? settings (s :: around) = some (.code .body)) ∧
    (∀ call around r, standing? settings (call :: around) = some (.code .body) →
      call.node.kind = .call → bodyCall settings call.node = .callback r →
      (∀ start s outer, Given call around start → InCodeOf settings start (s :: outer) →
        isOpen settings (s :: outer) = true → s.node.kind = .call →
        siteAt settings (s :: outer) = Site.ofCall settings s.node) ∧
      (∀ inner, inner ≠ [] → siteAt settings (inner ++ call :: around) ≠ [] →
        ∃ start, Given call around start ∧ start <:+ inner ++ call :: around)) ∧
    (∀ w ∈ Way.all root, ∀ l full, .lookup l ∈ siteAt settings w →
      l.literalKey? settings = some full → ∀ mode parse d,
      (mode = .conventions → ∀ path methods,
        (Scan.document parse { settings with mode } d root).outcome ≠
          .error (.cyclic path methods)) →
      ∃ occurrences, (Scan.document parse { settings with mode } d root).outcome =
        .ok occurrences ∧ l.occurrence d full ∈ occurrences) := by
  refine ⟨perm_sites settings hroles, ?_, ?_, ?_⟩
  · intro t s around ht hin hbody
    exact hin.standing?_member ht hbody
  · intro call around r hcall hkind hbody
    refine ⟨?_, fun inner hinner h => exists_given hcall hkind hbody hinner h⟩
    intro start s outer hgiven hin hopen hs
    exact hin.siteAt_eq (hgiven.standing?_eq hcall hkind hbody) hs hopen
  · intro w hw l full hl hfull mode parse d hcycle
    have hsite : .lookup l ∈ (Index.ofTree { settings with mode } root).sites.map (·.site) := by
      rw [Index.ofTree_mode, (perm_sites settings hroles).mem_iff]
      exact List.mem_flatMap.mpr ⟨w, hw, hl⟩
    refine ⟨_, Scan.document_outcome_of_not_stopped parse _ d root ?_,
      Scan.mem_traced hsite hfull⟩
    exact Scan.not_stopped_of_not_cyclic hcycle

/-- A lambda that looks up a key. -/
def lambdaOf (key : String) (line : Nat) : Node :=
  ⟨{ kind := .lambda },
    [⟨{ kind := .block, roles := [.body] },
      [⟨{ kind := .other "block_body", roles := [.body] },
        [Scan.callOf "t" line [Scan.quoted key]]⟩]⟩]⟩

/-- A callback with a lambda and a condition that is a lambda too. -/
def conditionalCallback : Node :=
  Scan.controllerOf
    [Scan.callOf "before_action" 2
      [lambdaOf "events.notice" 2, Scan.optionOf "if" (lambdaOf "events.open" 3)]]

theorem callback_code_kept_conditional :
    conditionalCallback.everywhere rolesApart = true ∧
      (Index.ofTree {} conditionalCallback).sites.map (·.site) =
        [.lookup ⟨.short, some ⟨"events.notice", false⟩, [], 2, 1⟩] ∧
      ∀ parse d, ∃ occurrences,
        (Scan.document parse { mode := .plain } d conditionalCallback).outcome = .ok occurrences ∧
          Lookup.occurrence ⟨.short, some ⟨"events.notice", false⟩, [], 2, 1⟩ d "events.notice" ∈
            occurrences := by
  have hroles : conditionalCallback.everywhere rolesApart = true := by decide +kernel
  have hsites : (Way.all conditionalCallback).flatMap (siteAt {}) =
      [.lookup ⟨.short, some ⟨"events.notice", false⟩, [], 2, 1⟩] := by
    decide +kernel
  obtain ⟨hperm, -, -, hreported⟩ := callback_code_kept {} conditionalCallback hroles
  obtain ⟨w, hw, hl⟩ := List.mem_flatMap.mp (hsites ▸ List.mem_singleton_self _)
  rw [hsites] at hperm
  refine ⟨hroles, List.perm_singleton.mp hperm, fun parse d => ?_⟩
  exact hreported w hw _ _ hl (by decide) .plain parse d fun hmode => by cases hmode

/-- The lookup in the condition of a callback is lost. -/
theorem condition_of_callback_lost :
    (((nodes (Way.all conditionalCallback)).filter (·.kind = .call)).filterMap
        (Lookup.ofCall? {})).filterMap (Lookup.literalKey? {}) =
      ["events.notice", "events.open"] ∧
    (Index.ofTree {} conditionalCallback).sites.length = 1 := by
  decide +kernel

end Way

end LocaleKeys

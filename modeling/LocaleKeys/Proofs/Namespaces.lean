import LocaleKeys.Proofs.Definitions
import LocaleKeys.Proofs.PlainMode
import LocaleKeys.Proofs.Positions

/-!
# Proofs: namespaces

The namespaces of a file are the file itself and then, in document order, one for each class or
module that the walk comes to. Its constants are those of the classes and modules around it and its
own, and there is a key segment for each of them. So it makes no difference to the segments whether
constants are nested in the text or written in one name, as long as no class around another one has
the suffix of controllers.
-/

namespace LocaleKeys

open Ast Outline

/-! ## Constants -/

namespace Ast.Node

mutual

/-- The texts of the constants in a name, from left to right. -/
def constantTexts : Node → List String
  | ⟨t, cs⟩ => if t.kind = .scopeResolution then constantTextsAll cs else [t.text]

/-- The texts of the constants in those among some nodes that are a scope or a name. -/
def constantTextsAll : List Node → List String
  | [] => []
  | c :: cs =>
    (if c.plays .scope || c.plays .name then c.constantTexts else []) ++ constantTextsAll cs

end

/-- The parts of a constant inside another one are its scope, if there is one, and then its name. -/
def ScopeThenName (n : Node) : Prop :=
  n.children.filter (fun c => c.plays .scope || c.plays .name) =
    (n.child? .scope).toList ++ (n.child? .name).toList

theorem constantTextsAll_eq (cs : List Node) :
    constantTextsAll cs =
      (cs.filter fun c => c.plays .scope || c.plays .name).flatMap constantTexts := by
  induction cs with
  | nil => rfl
  | cons c cs ih =>
    rw [constantTextsAll, ih, List.filter_cons]
    cases c.plays .scope || c.plays .name <;> rfl

/-- However constants are put inside each other, their names are read from left to right. -/
theorem constantPath_eq (n : Node)
    (h : ∀ m, n.Holds m → m.kind = .scopeResolution → m.ScopeThenName) :
    n.constantPath = n.constantTexts := by
  induction n using induct with
  | h t cs ih =>
    rw [constantPath, constantTexts]
    by_cases hkind : t.kind = .scopeResolution
    · have hparts : cs.filter (fun c => c.plays .scope || c.plays .name) =
          (cs.find? (plays .scope)).toList ++ (cs.find? (plays .name)).toList :=
        h ⟨t, cs⟩ (.refl _) hkind
      have hpart : ∀ role, constantPathOf role cs =
          (cs.find? (plays role)).toList.flatMap constantTexts := by
        intro role
        rw [constantPathOf_eq]
        cases hc : cs.find? (plays role) with
        | none => rfl
        | some c =>
          have hmem : c ∈ cs := List.mem_of_find?_eq_some hc
          have hpath := ih c hmem fun m hm => h m (.of_child hmem hm)
          simp [hpath]
      rw [hkind, if_pos rfl, constantTextsAll_eq, hparts, List.flatMap_append, hpart, hpart]
    · rw [if_neg hkind]
      split
      · exact absurd ‹_› hkind
      · rfl

end Ast.Node

/-! ## Segments -/

namespace Name

/-- A suffix is left out where something is left then. -/
theorem stripSuffix_append {front : String} (h : front ≠ "") (suffix : String) :
    stripSuffix (front ++ suffix) suffix = front := by
  have hends : endsIn (front ++ suffix) suffix = true := by
    rw [endsIn, String.toList_append, List.isSuffixOf_iff_suffix]
    exact List.suffix_append _ _
  have hlength : (front ++ suffix).length = front.length + suffix.length :=
    String.length_append front suffix
  have hpos : 0 < front.length := by
    rw [Nat.pos_iff_ne_zero]
    exact fun hzero => h (String.length_eq_zero_iff.mp hzero)
  have hshorter : suffix.length < (front ++ suffix).length := by omega
  rw [stripSuffix, hends, Bool.true_and, if_pos (decide_eq_true hshorter), hlength,
    Nat.add_sub_cancel, String.toList_append, List.take_left' String.length_toList,
    String.ofList_toList]

/-- Where a name does not end in a suffix, or is nothing else, it stays as it is. -/
theorem stripSuffix_eq_self {name suffix : String}
    (h : ∀ front, name = front ++ suffix → front = "") : stripSuffix name suffix = name := by
  refine if_neg fun hstrip => ?_
  rw [Bool.and_eq_true, endsIn, List.isSuffixOf_iff_suffix, decide_eq_true_eq] at hstrip
  obtain ⟨⟨front, hfront⟩, hshorter⟩ := hstrip
  have hname : name = String.ofList front ++ suffix := by
    rw [← String.toList_inj, String.toList_append, String.toList_ofList, hfront]
  have hnil : String.ofList front = "" := h _ hname
  rw [hnil, String.empty_append] at hname
  exact absurd (hname ▸ hshorter) (Nat.lt_irrefl _)

end Name

namespace Outline

/-- The names that a class or module definition gives. -/
def namesOf (definition : Node) : List String :=
  ((definition.child? .name).map Node.constantPath).getD []

/-- The key segments of the names that a class or a module gives. The last name of a class loses the
suffix of controllers. -/
def segmentsFor (settings : Settings) (isClass : Bool) (names : List String) : List String :=
  names.mapIdx fun i name => Name.underscore
    (if isClass && i + 1 = names.length then Name.stripSuffix name settings.controllerSuffix
      else name)

/-- The key segments that a class or module definition gives. -/
def segmentsOf (settings : Settings) (definition : Node) : List String :=
  segmentsFor settings (definition.kind = .classDef) (namesOf definition)

theorem length_segmentsOf (settings : Settings) (definition : Node) :
    (segmentsOf settings definition).length = (namesOf definition).length :=
  List.length_mapIdx

theorem mapIdx_eq_map {f : Nat → String → String} {g : String → String} {names : List String}
    (h : ∀ i < names.length, f i = g) : names.mapIdx f = names.map g := by
  refine List.ext_getElem (by simp) fun i hi _ => ?_
  rw [List.length_mapIdx] at hi
  rw [List.getElem_mapIdx, List.getElem_map, h i hi]

theorem segmentsFor_false (settings : Settings) (names : List String) :
    segmentsFor settings false names = names.map Name.underscore :=
  mapIdx_eq_map fun _ _ => rfl

theorem segmentsFor_true (settings : Settings) (names : List String) :
    segmentsFor settings true names =
      names.dropLast.map Name.underscore ++ (names.getLast?.map fun name =>
        Name.underscore (Name.stripSuffix name settings.controllerSuffix)).toList := by
  rcases List.eq_nil_or_concat' names with rfl | ⟨front, last, rfl⟩
  · rfl
  · rw [segmentsFor, List.mapIdx_concat, mapIdx_eq_map (g := Name.underscore)]
    · simp
    · -- only the last name has the number of all names less one
      intro i hi
      funext name
      rw [if_neg (by simp; omega)]

theorem segments_spaceOf (settings : Settings) (definition : Node) :
    (spaceOf settings definition).segments = segmentsOf settings definition := by
  by_cases hclass : definition.kind = .classDef
  · rw [segmentsOf, decide_eq_true hclass, segmentsFor_true]
    exact if_pos hclass
  · rw [segmentsOf, decide_eq_false hclass, segmentsFor_false]
    exact if_neg hclass

/-! ## Namespaces along the walk -/

namespace Visit

/-- The namespaces that the walk opens from a spot on, inside another one. -/
def spacesFrom (settings : Settings) (outer : Space) (p : Node × Standing) : List Space :=
  (Item.contextsAll outer (outline settings ⟨p.1, p.2, .pub⟩)).map (·.space)

/-- The visibility in force makes no difference for the namespaces. -/
theorem map_space_outline (settings : Settings) (outer : Space) (x : Visit) :
    (Item.contextsAll outer (x.outline settings)).map (·.space) =
      spacesFrom settings outer x.spot := by
  obtain ⟨n, standing, v⟩ := x
  by_cases h : standing = .loose
  · subst h
    exact congrArg _ (List.append_nil _)
  · have hsame : SameSpot ⟨n, standing, v⟩ ⟨n, standing, .pub⟩ := ⟨rfl, rfl⟩
    rw [spot_of_ne_loose h, spacesFrom, ← Item.contextsAll_unownedAll, hsame.unownedAll_outline,
      Item.contextsAll_unownedAll]

/-- A visit opens a namespace or none, and then come those of the visits after it. -/
theorem spaces_outline (settings : Settings) (outer : Space) (x : Visit) :
    (Item.contextsAll outer (x.outline settings)).map (·.space) =
      (if x.opens then [x.spaceAfter settings outer] else []) ++
        ((x.next settings).map spot).flatMap
          (spacesFrom settings (x.spaceAfter settings outer)) := by
  have hnext : (Item.contextsAll (x.spaceAfter settings outer)
        ((x.next settings).flatMap (outline settings))).map (·.space) =
      ((x.next settings).map spot).flatMap
        (spacesFrom settings (x.spaceAfter settings outer)) := by
    rw [Trail.contextsAll_flatMap, List.map_flatMap, List.flatMap_map]
    exact List.flatMap_congr fun y _ => map_space_outline settings _ y
  rw [contextsAll_eq, List.map_append, hnext]
  cases x.opens <;> rfl

end Visit

end Outline

/-! ## Namespaces position by position -/

namespace Way

/-- Does the walk come to a class or module at a position? -/
def opensAt (settings : Settings) (w : Way) : Bool :=
  match w, standing? settings w with
  | s :: _, some (.code _) => isSpace s.node
  | _, _ => false

/-- The classes and modules that a position stands in, the outermost one first, and itself if it is
one. -/
def chain (settings : Settings) : Way → List Node
  | [] => []
  | s :: around => chain settings around ++ if opensAt settings (s :: around) then [s.node] else []

/-- The namespace that the class or module at a position opens. -/
def spaceOn (settings : Settings) : Way → Space
  | [] => Space.root
  | s :: around =>
    { kind := if s.node.kind = .classDef then .classSpace else .moduleSpace
      constants := (chain settings (s :: around)).flatMap namesOf
      segments := (chain settings (s :: around)).flatMap (segmentsOf settings)
      line := s.node.line }

/-- A namespace has the constants and segments of the classes and modules that a position stands
in. -/
structure Encloses (settings : Settings) (outer : Space) (w : Way) : Prop where
  constants : outer.constants = (chain settings w).flatMap namesOf
  segments : outer.segments = (chain settings w).flatMap (segmentsOf settings)

variable {settings : Settings} {s : Step} {around : Way} {outer : Space}

theorem opensAt_cons {standing : Standing} (h : standing? settings (s :: around) = some standing)
    (v : Visibility) :
    opensAt settings (s :: around) = Visit.opens ⟨s.node, standing, v⟩ := by
  simp only [opensAt, h]
  cases standing <;> rfl

theorem opensAt_eq_false {w : Way} (h : standing? settings w = none) :
    opensAt settings w = false := by
  cases w with
  | nil => rfl
  | cons s around => simp only [opensAt, h]

theorem chain_eq_of_opensAt (h : opensAt settings (s :: around) = true) :
    chain settings (s :: around) = chain settings around ++ [s.node] := by
  rw [chain, if_pos h]

/-- The namespace that is opened at a position is inside the one around it. -/
theorem Encloses.within (h : Encloses settings outer around)
    (hopens : opensAt settings (s :: around) = true) :
    outer.within (spaceOf settings s.node) = spaceOn settings (s :: around) := by
  simp only [Space.within, spaceOn, chain_eq_of_opensAt hopens, List.flatMap_append,
    List.flatMap_singleton, h.constants, h.segments, segments_spaceOf]
  rfl

theorem Encloses.spaceAfter (h : Encloses settings outer around) {standing : Standing}
    (hstanding : standing? settings (s :: around) = some standing) (v : Visibility) :
    Encloses settings (Visit.spaceAfter settings outer ⟨s.node, standing, v⟩) (s :: around) := by
  rw [Visit.spaceAfter, ← opensAt_cons hstanding v]
  by_cases hopens : opensAt settings (s :: around) = true
  · rw [if_pos hopens, h.within hopens]
    exact ⟨rfl, rfl⟩
  · have hchain : chain settings (s :: around) = chain settings around := by
      rw [chain, if_neg hopens, List.append_nil]
    rw [if_neg hopens]
    exact ⟨hchain ▸ h.constants, hchain ▸ h.segments⟩

/-! ### Children in their order -/

theorem map_node_steps (before cs : List Node) : (steps before cs).map (·.node) = cs := by
  induction cs generalizing before with
  | nil => rfl
  | cons c cs ih => rw [steps, List.map_cons, ih]

/-- Children chosen for one reason come before those chosen for another, if no other order is
possible. -/
theorem chosen_append {p q : Step → Option Standing} {cs : List Node}
    (hboth : ∀ s ∈ steps [] cs, p s = none ∨ q s = none)
    (horder : (steps [] cs).Pairwise fun a b => q a ≠ none → p b = none) :
    chosen p [] cs ++ chosen q [] cs = chosen (fun s => (p s).or (q s)) [] cs := by
  unfold chosen
  generalize steps [] cs = ss at hboth horder
  induction ss with
  | nil => rfl
  | cons a ss ih =>
    obtain ⟨ha, hss⟩ := List.forall_mem_cons.mp hboth
    obtain ⟨hlater, horder⟩ := List.pairwise_cons.mp horder
    have hrest := ih hss horder
    simp only [List.filterMap_cons]
    cases hq : q a with
    | none => cases hp : p a <;> simp [← hrest]
    | some standing =>
      -- after a child that is chosen for the second reason none is chosen for the first one
      have hp : p a = none := ha.resolve_right (by simp [hq])
      have hnone : (ss.filterMap fun s => (p s).map (s.node, ·)) = [] := by
        rw [List.filterMap_eq_nil_iff]
        intro b hb
        rw [hlater b hb (by simp [hq])]
        rfl
      rw [hnone, List.nil_append] at hrest
      simp [hp, hnone, hrest]

theorem Chosen.eq_chosen {n : Node} {pick : Step → Option Standing}
    {spots : List (Node × Standing)} (h : Chosen n pick spots) (hordered : n.Ordered) :
    spots = chosen pick [] n.children := by
  cases h with
  | inOrder => rfl
  | @inParts p q standing standing' hpair hpick =>
    obtain ⟨hboth, horder⟩ : (∀ c ∈ n.children, p c = true → q c = false) ∧
        n.children.Pairwise fun c d => q c = true → p d = false := by
      cases hpair with
      | parts hkind => exact hordered.parts hkind
      | sides hkind =>
        obtain ⟨hboth, horder⟩ := hordered.sides hkind
        have hleft : ∀ c, isTarget c = true → c.plays .left = true := by
          intro c hc
          rw [isTarget, Bool.and_eq_true, Bool.and_eq_true] at hc
          exact hc.1.1
        refine ⟨fun c hc htarget => hboth c hc (hleft c htarget), horder.imp ?_⟩
        intro c d h hright
        by_contra htarget
        have hplays := hleft d (Bool.of_not_eq_false htarget)
        rw [h hright] at hplays
        cases hplays
    rw [funext hpick]
    have hsteps : (steps [] n.children).Pairwise fun a b => q a.node = true → p b.node = false := by
      rwa [← map_node_steps [] n.children, List.pairwise_map] at horder
    refine chosen_append (fun s hs => ?_) (hsteps.imp fun {a b} hab hq => ?_)
    · cases hp : p s.node with
      | false => exact Or.inl (pick_first_eq_none hp)
      | true => exact Or.inr (pick_first_eq_none (hboth _ (node_mem_of_mem_steps hs) hp))
    · refine pick_first_eq_none (hab ?_)
      by_contra hnot
      exact hq (pick_first_eq_none (Bool.eq_false_iff.mpr hnot))

/-! ### Every position -/

/-- Siblings of which each that is looked at gives the namespaces below its position. -/
theorem spaces_toNodes {cs : List Node} {pick : Step → Option Standing}
    (hpick : ∀ s, standing? settings (s :: around) = pick s)
    (hfound : ∀ s ∈ steps [] cs, ∀ standing, pick s = some standing →
      Visit.spacesFrom settings outer (s.node, standing) =
        ((toNode around s.before s.node).filter (opensAt settings)).map (spaceOn settings)) :
    (chosen pick [] cs).flatMap (Visit.spacesFrom settings outer) =
      ((toNodes around [] cs).filter (opensAt settings)).map (spaceOn settings) := by
  rw [chosen, List.filterMap_eq_flatMap_toList, List.flatMap_assoc, toNodes_eq, List.filter_flatMap,
    List.map_flatMap]
  refine List.flatMap_congr fun s hs => ?_
  cases hs' : pick s with
  | none =>
    have hnone : (toNode around s.before s.node).filter (opensAt settings) = [] := by
      rw [List.filter_eq_nil_iff]
      intro w hw
      obtain ⟨inner, rfl⟩ := exists_of_mem_toNode hw
      rw [opensAt_eq_false (standing?_append_eq_none (by simp) ((hpick s).trans hs') inner)]
      exact Bool.false_ne_true
    rw [hnone]
    rfl
  | some standing =>
    rw [Option.map_some, Option.toList_some, List.flatMap_singleton]
    exact hfound s hs standing hs'

/-- From a position on the walk opens the namespaces of the classes and modules that it comes to
there. -/
theorem spaces_toNode (n : Node) (hordered : ∀ m, n.Holds m → m.Ordered) (around : Way)
    (before : List Node) {standing : Standing}
    (h : standing? settings (⟨before, n⟩ :: around) = some standing)
    (houter : Encloses settings outer around) :
    Visit.spacesFrom settings outer (n, standing) =
      ((toNode around before n).filter (opensAt settings)).map (spaceOn settings) := by
  induction n using Node.induct generalizing around before standing outer with
  | h t cs ih =>
    have hloose : standing ≠ .loose := by
      rintro rfl
      exact standing?_ne_loose _ h
    have hpick : ∀ s, standing? settings (s :: ⟨before, ⟨t, cs⟩⟩ :: around) =
        enter settings ⟨t, cs⟩ s standing := by
      intro s
      rw [standing?, h]
      rfl
    have hnext := (chosen_next settings ⟨⟨t, cs⟩, standing, .pub⟩ hloose).eq_chosen
      (hordered _ (.refl _))
    have hbelow := spaces_toNodes hpick fun s hs standing' henter => by
      have hs' : s.node ∈ cs := node_mem_of_mem_steps hs
      exact ih s.node hs' (fun m hm => hordered m (.of_child hs' hm)) _ s.before
        ((hpick s).trans henter) (houter.spaceAfter h .pub)
    rw [Visit.spacesFrom, Visit.spaces_outline, hnext, toNode, List.filter_cons,
      opensAt_cons h .pub]
    by_cases hopens : Visit.opens ⟨⟨t, cs⟩, standing, .pub⟩ = true
    · have hwithin := houter.within ((opensAt_cons h .pub).trans hopens)
      rw [if_pos hopens, if_pos hopens, List.map_cons, ← hwithin, List.singleton_append]
      exact congrArg₂ List.cons (if_pos hopens) hbelow
    · rw [if_neg hopens, if_neg hopens, List.nil_append]
      exact hbelow

/-- The namespaces of a file are the file and those that are opened position by position. -/
theorem spaces_all (settings : Settings) {root : Node} (h : ∀ n, root.Holds n → n.Ordered) :
    (Index.ofTree settings root).contexts.map (·.space) =
      Space.root :: ((Way.all root).filter (opensAt settings)).map (spaceOn settings) := by
  have hbelow : (chosen (fun s => if s.node.isNamed then some (.code .body) else none) []
        root.children).flatMap (Visit.spacesFrom settings Space.root) =
      ((Way.all root).filter (opensAt settings)).map (spaceOn settings) := by
    refine spaces_toNodes (fun s => rfl) fun s hs standing hpick => ?_
    have hs' : s.node ∈ root.children := node_mem_of_mem_steps hs
    refine spaces_toNode s.node (fun m hm => h m ?_) [] s.before hpick ⟨rfl, rfl⟩
    obtain ⟨t, cs⟩ := root
    exact .of_child hs' hm
  have hfile := Visit.spaces_outline settings Space.root (.file root)
  rw [← map_spot_members .body .pub [] root.children] at hbelow
  rw [Index.ofTree, Index.ofOutline, List.map_cons, Visit.ofTree_eq, hfile]
  exact congrArg _ hbelow

/-! ### The classes and modules around a position -/

theorem enter_cases {n : Node} {standing standing' : Standing}
    (h : enter settings n s standing = some standing') :
    (∃ place, standing' = .code place) ∨ s.node.kind = .bodyStatement ∨
      s.node.plays .arguments = true := by
  cases standing with
  | code place =>
    have hcall : ∀ b, enterCall n s b = some standing' →
        (∃ place, standing' = .code place) ∨ s.node.plays .arguments = true := by
      intro b
      cases b <;> grind [enterCall, isFirst]
    grind [enter, enterCode, enterBody]
  | loose => cases h
  | statements | wrapped | arguments => grind [enter]

/-- No class or module on the way to a position is passed over, unless it is an argument list. -/
theorem opensAt_of_isSpace {inner : Way}
    (h : opensAt settings (inner ++ s :: around) = true) (hspace : isSpace s.node = true)
    (harguments : s.node.plays .arguments = false) : opensAt settings (s :: around) = true := by
  have hlooked : standing? settings (s :: around) ≠ none := by
    intro hnone
    rw [opensAt_eq_false (standing?_append_eq_none (by simp) hnone inner)] at h
    cases h
  obtain ⟨standing, hstanding⟩ := Option.ne_none_iff_exists'.mp hlooked
  have hcode : ∃ place, standing = .code place := by
    cases around with
    | nil =>
      rw [standing?] at hstanding
      split at hstanding
      · exact ⟨_, (Option.some.inj hstanding).symm⟩
      · cases hstanding
    | cons p around =>
      rw [standing?] at hstanding
      obtain ⟨outside, -, henter⟩ := Option.bind_eq_some_iff.mp hstanding
      rcases enter_cases henter with hcode | hkind | hplays
      · exact hcode
      · rw [isSpace, hkind] at hspace
        cases hspace
      · rw [harguments] at hplays
        cases hplays
  obtain ⟨place, rfl⟩ := hcode
  simp only [opensAt, hstanding]
  exact hspace

/-! ### Constants and segments side by side -/

theorem length_flatMap_segmentsOf (settings : Settings) (ds : List Node) :
    (ds.flatMap (segmentsOf settings)).length = (ds.flatMap namesOf).length := by
  simp only [List.length_flatMap, length_segmentsOf]

theorem getElem?_segmentsOf {d : Node} {i : Nat} {name : String} (h : (namesOf d)[i]? = some name) :
    (segmentsOf settings d)[i]? = some (Name.underscore
      (if d.kind = .classDef ∧ i + 1 = (namesOf d).length then
        Name.stripSuffix name settings.controllerSuffix else name)) := by
  rw [segmentsOf, segmentsFor, List.getElem?_mapIdx, h]
  simp only [Option.map_some, Bool.and_eq_true, decide_eq_true_eq]

theorem getElem?_flatMap_append {f : Node → List String} (before : List Node) (d : Node)
    (after : List Node) {i : Nat} (hi : i < (f d).length) :
    ((before ++ d :: after).flatMap f)[(before.flatMap f).length + i]? = (f d)[i]? := by
  rw [List.flatMap_append, List.flatMap_cons, List.getElem?_append_right (Nat.le_add_right _ _),
    Nat.add_sub_cancel_left, List.getElem?_append_left hi]

/-- The constants that a class or module on the way gives, and their segments, stand at the same
places. -/
theorem getElem?_spaceOn {before after : List Node} {d : Node}
    (hchain : chain settings (s :: around) = before ++ d :: after) {i : Nat} {name : String}
    (hname : (namesOf d)[i]? = some name) :
    (spaceOn settings (s :: around)).constants[(before.flatMap namesOf).length + i]? = some name ∧
      (spaceOn settings (s :: around)).segments[(before.flatMap namesOf).length + i]? =
        some (Name.underscore
          (if d.kind = .classDef ∧ i + 1 = (namesOf d).length then
            Name.stripSuffix name settings.controllerSuffix else name)) := by
  have hi : i < (namesOf d).length := (List.getElem?_eq_some_iff.mp hname).1
  have hi' : i < (segmentsOf settings d).length := by rwa [length_segmentsOf]
  constructor
  · simp only [spaceOn, hchain]
    rw [getElem?_flatMap_append before d after hi, hname]
  · simp only [spaceOn, hchain]
    rw [← length_flatMap_segmentsOf settings, getElem?_flatMap_append before d after hi',
      getElem?_segmentsOf hname]

/-! ### Nested or in one name -/

/-- The class or module at a position has a name, and no class around it has the suffix of
controllers. -/
structure KeepsSuffixes (settings : Settings) (s : Step) (around : Way) : Prop where
  named : namesOf s.node ≠ []
  kept : ∀ d ∈ chain settings around, d.kind = .classDef → ∀ last ∈ (namesOf d).getLast?,
    Name.stripSuffix last settings.controllerSuffix = last

theorem segmentsFor_append (settings : Settings) (isClass : Bool) (front : List String)
    {names : List String} (h : names ≠ []) :
    segmentsFor settings isClass (front ++ names) =
      front.map Name.underscore ++ segmentsFor settings isClass names := by
  cases isClass with
  | false => rw [segmentsFor_false, segmentsFor_false, List.map_append]
  | true =>
    rw [segmentsFor_true, segmentsFor_true, List.dropLast_append_of_ne_nil h, List.map_append,
      List.append_assoc, List.getLast?_append, List.getLast?_eq_some_getLast h, Option.some_or]

theorem segmentsOf_of_kept {d : Node} (h : d.kind = .classDef → ∀ last ∈ (namesOf d).getLast?,
      Name.stripSuffix last settings.controllerSuffix = last) :
    segmentsOf settings d = (namesOf d).map Name.underscore := by
  by_cases hclass : d.kind = .classDef
  · rw [segmentsOf, decide_eq_true hclass, segmentsFor_true]
    have hkept := h hclass
    rcases List.eq_nil_or_concat' (namesOf d) with hnames | ⟨front, last, hnames⟩
    · rw [hnames]
      rfl
    · rw [hnames] at hkept ⊢
      have hlast := hkept last (by simp)
      simp [hlast]
  · rw [segmentsOf, decide_eq_false hclass, segmentsFor_false]

/-- The segments are then those that all the constants have in one name. -/
theorem KeepsSuffixes.segments_eq (h : KeepsSuffixes settings s around)
    (hopens : opensAt settings (s :: around) = true) :
    (spaceOn settings (s :: around)).segments =
      segmentsFor settings (s.node.kind = .classDef)
        (spaceOn settings (s :: around)).constants := by
  have houter : (chain settings around).flatMap (segmentsOf settings) =
      ((chain settings around).flatMap namesOf).map Name.underscore := by
    rw [List.map_flatMap]
    exact List.flatMap_congr fun d hd => segmentsOf_of_kept (h.kept d hd)
  simp only [spaceOn, chain_eq_of_opensAt hopens, List.flatMap_append, List.flatMap_singleton]
  rw [segmentsFor_append _ _ _ h.named, houter, segmentsOf]

/-- **Every class and module that the walk comes to opens one namespace.** The namespaces of a file
stand in document order. Each has the constants of all classes and modules around it and its own,
one name after another, and a segment for each of them. It makes no difference whether the same
constants are nested or written in one name, as long as no class on the way loses a suffix. -/
theorem namespaces_in_order (settings : Settings) (root : Node)
    (h : ∀ n, root.Holds n → n.Ordered) :
    (Index.ofTree settings root).contexts.map (·.space) =
      Space.root :: ((Way.all root).filter (opensAt settings)).map (spaceOn settings) ∧
    -- no class or module on the way to another one is passed over
    (∀ inner s around, opensAt settings (inner ++ s :: around) = true → isSpace s.node = true →
      s.node.plays .arguments = false → opensAt settings (s :: around) = true) ∧
    -- the names of constants inside each other are read from left to right
    (∀ n : Node, (∀ m, n.Holds m → m.kind = .scopeResolution → m.ScopeThenName) →
      n.constantPath = n.constantTexts) ∧
    -- there is a segment for each constant, and only the last one of a class loses a suffix
    (∀ w, opensAt settings w = true →
      (spaceOn settings w).segments.length = (spaceOn settings w).constants.length ∧
      ∀ before d after, chain settings w = before ++ d :: after →
        ∀ i name, (namesOf d)[i]? = some name →
          (spaceOn settings w).constants[(before.flatMap namesOf).length + i]? = some name ∧
          (spaceOn settings w).segments[(before.flatMap namesOf).length + i]? =
            some (Name.underscore
              (if d.kind = .classDef ∧ i + 1 = (namesOf d).length then
                Name.stripSuffix name settings.controllerSuffix else name))) ∧
    (∀ name suffix,
      (∀ front, front ≠ "" → name = front ++ suffix → Name.stripSuffix name suffix = front) ∧
      ((∀ front, name = front ++ suffix → front = "") → Name.stripSuffix name suffix = name)) ∧
    -- nested or in one name
    ∀ s around s' around', opensAt settings (s :: around) = true →
      opensAt settings (s' :: around') = true → KeepsSuffixes settings s around →
      KeepsSuffixes settings s' around' → s.node.kind = s'.node.kind →
      (chain settings (s :: around)).flatMap namesOf =
        (chain settings (s' :: around')).flatMap namesOf →
      (spaceOn settings (s :: around)).constants = (spaceOn settings (s' :: around')).constants ∧
      (spaceOn settings (s :: around)).segments =
        (spaceOn settings (s' :: around')).segments := by
  refine ⟨spaces_all settings h, fun inner s around => opensAt_of_isSpace,
    fun n => Node.constantPath_eq n, ?_, ?_, ?_⟩
  · intro w hopens
    cases w with
    | nil => cases hopens
    | cons s around =>
      refine ⟨length_flatMap_segmentsOf settings _, ?_⟩
      intro before d after hchain i name hname
      exact getElem?_spaceOn hchain hname
  · intro name suffix
    refine ⟨?_, Name.stripSuffix_eq_self⟩
    rintro front hfront rfl
    exact Name.stripSuffix_append hfront suffix
  · intro s around s' around' hopens hopens' hkept hkept' hkind hnames
    have hconstants : (spaceOn settings (s :: around)).constants =
        (spaceOn settings (s' :: around')).constants := hnames
    refine ⟨hconstants, ?_⟩
    rw [hkept.segments_eq hopens, hkept'.segments_eq hopens', hconstants, hkind]

/-- A constant, in a role. -/
def constantOf (role : Role) (text : String) : Node :=
  ⟨{ kind := .constant, roles := [role], text }, []⟩

/-- A class or module with its name and its members. -/
def spaceNode (kind : Kind) (name : Node) (members : List Node) : Node :=
  ⟨{ kind }, [name, ⟨{ kind := .bodyStatement, roles := [.body] }, members⟩]⟩

/-- A controller inside a module, and then one whose name says the same. The module is nested in a
method and its name is made of two. -/
def twoControllers : Node :=
  ⟨{ kind := .other "program" },
    [Scan.actionOf "load"
      [spaceNode .moduleDef
        ⟨{ kind := .scopeResolution, roles := [.name] },
          [constantOf .scope "Admin", constantOf .name "V1"]⟩
        [spaceNode .classDef (constantOf .name "EventsController") []]],
      spaceNode .classDef
        ⟨{ kind := .scopeResolution, roles := [.name] },
          [⟨{ kind := .scopeResolution, roles := [.scope] },
            [constantOf .scope "Admin", constantOf .name "V1"]⟩,
            constantOf .name "EventsController"]⟩ []]⟩

theorem namespaces_in_order_two :
    (∀ n, twoControllers.Holds n → n.Ordered) ∧
    (Index.ofTree {} twoControllers).contexts.map
        (fun c => (c.space.constants, c.space.segments)) =
      [([], []), (["Admin", "V1"], ["admin", "v1"]),
        (["Admin", "V1", "EventsController"], ["admin", "v1", "events"]),
        (["Admin", "V1", "EventsController"], ["admin", "v1", "events"])] ∧
    (Index.ofTree {} twoControllers).contexts.map (·.space) =
      Space.root :: ((Way.all twoControllers).filter (opensAt {})).map (spaceOn {}) := by
  have hordered : ∀ n, twoControllers.Holds n → n.Ordered := by
    intro n hn
    have htest : twoControllers.everywhere (fun n => decide n.Ordered) = true := by
      decide +kernel
    exact of_decide_eq_true (Node.everywhere_iff.mp htest n hn)
  exact ⟨hordered, by decide +kernel, (namespaces_in_order {} twoControllers hordered).1⟩

end Way

end LocaleKeys

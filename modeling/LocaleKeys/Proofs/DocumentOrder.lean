import LocaleKeys.Proofs.Walk

/-!
# Proofs: document order

The call sites of a file stand in its index in document order, each once: they are those of the
calls that a plain walk through all nodes meets, apart from some positions that hold no code of
their own.
-/

namespace LocaleKeys

open Ast Outline

/-! ## Positions in a tree -/

/-- A step from a node to one of its children. -/
structure Step where
  /-- The children before it. -/
  before : List Node
  /-- The child. -/
  node : Node

/-- A position in a file: the steps to it, the last one first. -/
abbrev Way := List Step

namespace Way

mutual

/-- The ways to a node and to the nodes below it, each before those below it. -/
def toNode (around : Way) (before : List Node) : Node → List Way
  | ⟨t, cs⟩ => (⟨before, ⟨t, cs⟩⟩ :: around) :: toNodes (⟨before, ⟨t, cs⟩⟩ :: around) [] cs

/-- The ways to some siblings and to the nodes below them. -/
def toNodes (around : Way) (before : List Node) : List Node → List Way
  | [] => []
  | c :: cs => toNode around before c ++ toNodes around (before ++ [c]) cs

end

/-- All positions in a file, in document order. -/
def all (root : Node) : List Way := toNodes [] [] root.children

/-- Does a node of this kind hold no code? -/
def isSilent (k : Kind) : Bool := k.isParameters || k = .comment

/-- Is a child of a node a part of its code? In a definition it is the body, or without a body a
statement; in a call it is anything but the name of the method; in an assignment it is the right
side, and the left side if that is more than a variable. -/
def isPart (parent : Node) (s : Step) : Bool :=
  match parent.kind with
  | .classDef | .moduleDef | .method | .singletonMethod | .singletonClass =>
    if hasBody parent.children then s.node.plays .body && !hasBody s.before else isStatement s.node
  | .call => s.node.isNamed && !s.node.plays .method
  | .identifier => false
  | .assignment | .operatorAssignment =>
    isTarget s.node && !s.before.any isTarget ||
      s.node.plays .right && !s.before.any (Node.plays .right)
  | _ => s.node.isNamed

/-- Does a position, or one around it, hold no code? -/
def isExcluded : Way → Bool
  | [] => false
  | [s] => isSilent s.node.kind || !s.node.isNamed
  | s :: p :: around => isSilent s.node.kind || !isPart p.node s || isExcluded (p :: around)

/-- The nodes at some positions that are not excluded. -/
def nodes (ways : List Way) : List Node :=
  (ways.filter fun w => !w.isExcluded).filterMap fun w => w.head?.map Step.node

/-- Is it a class or a module? -/
def isSpace (n : Node) : Bool := n.kind = .classDef || n.kind = .moduleDef

/-- Does a position stand directly in a file, or in the body of a class or module? -/
def isBodyLevel : Way → Bool
  | [] => false
  | [_] => true
  | s :: p :: around =>
    isSpace p.node && !(hasBody p.node.children && s.node.kind = .bodyStatement) ||
      p.node.kind = .bodyStatement &&
        around.head?.any fun d => isSpace d.node && hasBody d.node.children

/-! ## Walking past excluded positions -/

theorem isExcluded_append {w : Way} (h : w.isExcluded = true) (inner : Way) :
    isExcluded (inner ++ w) = true := by
  induction inner with
  | nil => exact h
  | cons s inner ih =>
    cases hinner : inner ++ w with
    | nil =>
      rw [List.append_eq_nil_iff] at hinner
      rw [hinner.2] at h
      cases h
    | cons p around =>
      rw [List.cons_append, hinner, isExcluded, ← hinner, ih, Bool.or_true]

mutual

theorem exists_of_mem_toNode {w around : Way} {before : List Node} {n : Node}
    (h : w ∈ toNode around before n) :
    ∃ inner, w = inner ++ ⟨before, n⟩ :: around := by
  match n with
  | ⟨t, cs⟩ =>
    rw [toNode] at h
    rcases List.mem_cons.mp h with rfl | h
    · exact ⟨[], rfl⟩
    · obtain ⟨inner, rfl⟩ := exists_of_mem_toNodes h
      exact ⟨inner, rfl⟩

theorem exists_of_mem_toNodes {w around : Way} {before : List Node} {cs : List Node}
    (h : w ∈ toNodes around before cs) : ∃ inner, w = inner ++ around := by
  match cs with
  | [] => cases h
  | c :: cs =>
    rw [toNodes] at h
    rcases List.mem_append.mp h with h | h
    · obtain ⟨inner, rfl⟩ := exists_of_mem_toNode h
      exact ⟨inner ++ [⟨before, c⟩], by simp⟩
    · exact exists_of_mem_toNodes h

end

theorem toNode_subset_toNodes (w : Way) (before pre post : List Node) (c : Node) :
    toNode w (before ++ pre) c ⊆ toNodes w before (pre ++ c :: post) := by
  induction pre generalizing before with
  | nil =>
    rw [List.append_nil, List.nil_append, toNodes]
    exact List.subset_append_left _ _
  | cons d pre ih =>
    rw [List.cons_append, toNodes]
    have hrest := ih (before ++ [d])
    rw [List.append_assoc] at hrest
    exact List.subset_append_of_subset_right _ hrest

/-- The positions below a child are positions below its parent. -/
theorem toNode_subset {around : Way} {before pre post : List Node} {n c : Node}
    (hcs : n.children = pre ++ c :: post) :
    toNode (⟨before, n⟩ :: around) pre c ⊆ toNode around before n := by
  obtain ⟨t, cs⟩ := n
  cases hcs
  rw [toNode]
  exact List.subset_cons_of_subset _ (toNode_subset_toNodes _ [] pre post c)

theorem isSilent_eq_false {s : Step} {around : Way} (h : isExcluded (s :: around) = false) :
    isSilent s.node.kind = false := by
  cases around with
  | nil => exact (Bool.or_eq_false_iff.mp h).1
  | cons p around => exact (Bool.or_eq_false_iff.mp (Bool.or_eq_false_iff.mp h).1).1

theorem nodes_append (ws ws' : List Way) : nodes (ws ++ ws') = nodes ws ++ nodes ws' := by
  rw [nodes, List.filter_append, List.filterMap_append]
  rfl

/-- Below an excluded position there is nothing. -/
theorem nodes_toNode_of_isExcluded {around : Way} {before : List Node} {n : Node}
    (h : isExcluded (⟨before, n⟩ :: around) = true) : nodes (toNode around before n) = [] := by
  have hnone : (toNode around before n).filter (fun w => !w.isExcluded) = [] := by
    rw [List.filter_eq_nil_iff]
    intro w hw
    obtain ⟨inner, rfl⟩ := exists_of_mem_toNode hw
    simp [isExcluded_append h]
  rw [nodes, hnone]
  rfl

theorem nodes_toNode {around : Way} {before : List Node} {n : Node}
    (h : isExcluded (⟨before, n⟩ :: around) = false) :
    nodes (toNode around before n) =
      n :: nodes (toNodes (⟨before, n⟩ :: around) [] n.children) := by
  obtain ⟨t, cs⟩ := n
  rw [toNode, nodes, List.filter_cons_of_pos (by simp [h]), List.filterMap_cons]
  rfl

/-! ## Sites at positions -/

/-- The sites of the calls among some nodes. -/
def callSites (settings : Settings) (ns : List Node) : List Site :=
  (ns.filter (·.kind = .call)).flatMap (Site.ofCall settings)

/-- The sites of the calls at some positions that are not excluded. -/
def sitesAt (settings : Settings) (ws : List Way) : List Site := callSites settings (nodes ws)

theorem sitesAt_append (settings : Settings) (ws ws' : List Way) :
    sitesAt settings (ws ++ ws') = sitesAt settings ws ++ sitesAt settings ws' := by
  rw [sitesAt, nodes_append, callSites, List.filter_append, List.flatMap_append]
  rfl

section Siblings

variable {settings : Settings} {w : Way} {full : List Node} {f : Node → List Site}

/-- The sites in the children that pass a test. -/
theorem sitesAt_each {test : Node → Bool}
    (h : ∀ pre c post, full = pre ++ c :: post →
      sitesAt settings (toNode w pre c) = if test c then f c else [])
    (cs before : List Node) (hfull : full = before ++ cs) :
    sitesAt settings (toNodes w before cs) = (cs.filter test).flatMap f := by
  induction cs generalizing before with
  | nil => rfl
  | cons c cs ih =>
    have hrest := ih (before ++ [c]) (by simpa using hfull)
    rw [toNodes, sitesAt_append, h before c cs hfull, hrest]
    by_cases hc : test c = true <;> simp [hc]

/-- The sites in the first child that passes a test. -/
theorem sitesAt_first {test : Node → Bool}
    (h : ∀ pre c post, full = pre ++ c :: post →
      sitesAt settings (toNode w pre c) = if test c && !pre.any test then f c else [])
    (cs before : List Node) (hfull : full = before ++ cs) :
    sitesAt settings (toNodes w before cs) =
      if before.any test then [] else ((cs.find? test).map f).getD [] := by
  induction cs generalizing before with
  | nil => simp [toNodes, sitesAt, nodes, callSites]
  | cons c cs ih =>
    have hrest := ih (before ++ [c]) (by simpa using hfull)
    rw [toNodes, sitesAt_append, h before c cs hfull, hrest]
    by_cases hc : test c = true <;> by_cases hbefore : before.any test = true <;>
      simp [hc, hbefore]

/-- The sites in the first child that passes one test and the first that passes another, where the
first one comes first. -/
theorem sitesAt_two {p q : Node → Bool}
    (h : ∀ pre c post, full = pre ++ c :: post →
      sitesAt settings (toNode w pre c) =
        if p c && !pre.any p || q c && !pre.any q then f c else [])
    (cs before : List Node) (hfull : full = before ++ cs)
    (hboth : ∀ c ∈ cs, p c = true → q c = false)
    (horder : cs.Pairwise fun c d => q c = true → p d = false) :
    sitesAt settings (toNodes w before cs) =
      (if before.any p then [] else ((cs.find? p).map f).getD []) ++
        if before.any q then [] else ((cs.find? q).map f).getD [] := by
  induction cs generalizing before with
  | nil => simp [toNodes, sitesAt, nodes, callSites]
  | cons c cs ih =>
    have hrest := ih (before ++ [c]) (by simpa using hfull)
      (fun d hd => hboth d (List.mem_cons_of_mem c hd)) (List.pairwise_cons.mp horder).2
    rw [toNodes, sitesAt_append, h before c cs hfull, hrest]
    by_cases hp : p c = true
    · have hq : q c = false := hboth c List.mem_cons_self hp
      by_cases hbefore : before.any p = true <;> simp [hp, hq, hbefore]
    · by_cases hq : q c = true
      · -- After a child that passes the second test none passes the first one.
        have hnone : cs.find? p = none := by
          rw [List.find?_eq_none]
          intro d hd hpd
          rw [(List.pairwise_cons.mp horder).1 d hd hq] at hpd
          cases hpd
        by_cases hbefore : before.any q = true <;> simp [hp, hq, hbefore, hnone]
      · simp [hp, hq]

/-- The sites in the members of a body. -/
theorem sitesAt_members {place : Place} {test : Node → Bool}
    (h : ∀ pre c post, full = pre ++ c :: post → ∀ v,
      sitesAt settings (toNode w pre c) =
        if test c then Visit.sites settings ⟨c, .code place, v⟩ else [])
    (cs before : List Node) (hfull : full = before ++ cs) (v : Visibility) :
    sitesAt settings (toNodes w before cs) =
      (Visit.members place test v cs).flatMap (Visit.sites settings) := by
  induction cs generalizing before v with
  | nil => rfl
  | cons c cs ih =>
    have hrest := ih (before ++ [c]) (by simpa using hfull)
    rw [toNodes, sitesAt_append, h before c cs hfull v, Visit.members]
    by_cases hc : test c = true
    · rw [if_pos hc, if_pos hc, List.flatMap_cons, hrest]
    · rw [if_neg hc, if_neg hc, List.nil_append, hrest]

end Siblings

/-! ## What the order rests on -/

/-- Every left side comes before every right side, and none is both. -/
def LeftFirst (cs : List Node) : Prop :=
  (∀ c ∈ cs, c.plays .left = true → c.plays .right = false) ∧
    cs.Pairwise fun c d => c.plays .right = true → d.plays .left = false

instance (cs : List Node) : Decidable (LeftFirst cs) := inferInstanceAs (Decidable (_ ∧ _))

/-- Besides its name, comments and tokens a call has one argument list and nothing else, so no
block. -/
def OnlyArguments (call : Node) : Prop :=
  (∀ c ∈ call.children,
    c.plays .arguments = (c.isNamed && !c.plays .method && c.kind ≠ .comment)) ∧
  (∀ c ∈ call.children, c.plays .arguments = true → c.kind = .other "argument_list") ∧
  call.children.countP (Node.plays .arguments) ≤ 1

instance (call : Node) : Decidable (OnlyArguments call) := inferInstanceAs (Decidable (_ ∧ _ ∧ _))

/-- The calls directly in a body, of a file, class or module. -/
def bodyCalls (ws : List Way) : List Node :=
  (nodes (ws.filter isBodyLevel)).filter (·.kind = .call)

/-- The calls directly in a body that set the visibility of methods. -/
def visibilityCalls (settings : Settings) (ws : List Way) : List Node :=
  (bodyCalls ws).filter fun n => (bodyCall settings n).setsVisibility

/-- What the order of sites rests on. -/
structure Regular (settings : Settings) (ws : List Way) : Prop where
  /-- Methods have a name. -/
  named : ∀ n ∈ nodes ws, n.kind = .method → (n.child? .name).isSome = true
  /-- The left side of an assignment comes before the right side. -/
  sides : ∀ n ∈ nodes ws, n.kind = .assignment ∨ n.kind = .operatorAssignment →
    LeftFirst n.children
  /-- No call in a body registers a callback. -/
  callbacks : ∀ n ∈ bodyCalls ws, (bodyCall settings n).registers = false
  /-- Calls that set a visibility have no block. -/
  noBlock : ∀ n ∈ visibilityCalls settings ws, OnlyArguments n
  /-- There are no calls inside the names of the methods whose visibility is set. -/
  names : ∀ n ∈ visibilityCalls settings ws, ∀ arguments ∈ n.child? .arguments,
    ∀ a ∈ arguments.named, a.plainText?.isSome = true → a.everywhere (·.kind ≠ .call) = true
  /-- Calls that set a visibility are no lookups. -/
  lookups : ∀ n ∈ visibilityCalls settings ws, ∀ method ∈ n.child? .method,
    settings.lookupMethods.contains method.text = false

theorem mem_nodes {ws : List Way} {n : Node} :
    n ∈ nodes ws ↔ ∃ before around, (⟨before, n⟩ :: around : Way) ∈ ws ∧
      isExcluded (⟨before, n⟩ :: around) = false := by
  simp only [nodes, List.mem_filterMap, List.mem_filter, Bool.not_eq_true']
  constructor
  · rintro ⟨w, ⟨hw, hopen⟩, hn⟩
    cases w with
    | nil => cases hn
    | cons s around =>
      cases hn
      exact ⟨s.before, around, hw, hopen⟩
  · rintro ⟨before, around, hw, hopen⟩
    exact ⟨_, ⟨hw, hopen⟩, rfl⟩

theorem nodes_subset {ws ws' : List Way} (h : ws' ⊆ ws) : nodes ws' ⊆ nodes ws := by
  intro n hn
  obtain ⟨before, around, hw, hopen⟩ := mem_nodes.mp hn
  exact mem_nodes.mpr ⟨before, around, h hw, hopen⟩

theorem bodyCalls_subset {ws ws' : List Way} (h : ws' ⊆ ws) : bodyCalls ws' ⊆ bodyCalls ws :=
  List.filter_subset _ (nodes_subset (List.filter_subset _ h))

theorem Regular.mono {settings : Settings} {ws ws' : List Way} (hregular : Regular settings ws)
    (h : ws' ⊆ ws) : Regular settings ws' where
  named n hn := hregular.named n (nodes_subset h hn)
  sides n hn := hregular.sides n (nodes_subset h hn)
  callbacks n hn := hregular.callbacks n (bodyCalls_subset h hn)
  noBlock n hn := hregular.noBlock n (List.filter_subset _ (bodyCalls_subset h) hn)
  names n hn := hregular.names n (List.filter_subset _ (bodyCalls_subset h) hn)
  lookups n hn := hregular.lookups n (List.filter_subset _ (bodyCalls_subset h) hn)

/-! ## The walk at a position -/

/-- A visit looks at a node as its position tells. -/
def Fits (w : Way) (x : Visit) : Prop :=
  match x.standing with
  | .code place => place = .body → isBodyLevel w = true
  | .statements place =>
    x.node.kind = .bodyStatement ∧ (place = .body → ∀ s, isBodyLevel (s :: w) = true)
  | .wrapped _ => x.node.kind = .other "argument_list"
  | .loose | .arguments => False

theorem fits_inside (w : Way) (v : Visibility) (c : Node) : Fits w (.inside v c) := by
  intro h
  cases h

/-- There are no sites where there is no code. -/
theorem sites_of_isSilent {settings : Settings} {w : Way} {x : Visit} (hfits : Fits w x)
    (hsilent : isSilent x.node.kind = true) : x.sites settings = [] := by
  obtain ⟨n, standing, v⟩ := x
  cases standing with
  | code place =>
    have hstep : Visit.codeStep settings place v n = (.after [], []) := by
      cases hkind : n.kind <;> simp_all [isSilent, Kind.isParameters, Visit.codeStep]
    rw [Visit.sites_code, hstep]
    rfl
  | statements place =>
    rw [hfits.1] at hsilent
    cases hsilent
  | wrapped u =>
    rw [show n.kind = _ from hfits] at hsilent
    cases hsilent
  | loose => cases hfits
  | arguments => cases hfits

/-- What a visit is to find at a position and below it. -/
def Finds (settings : Settings) (around : Way) (before : List Node) (c : Node) : Prop :=
  ∀ x : Visit, x.node = c → Fits (⟨before, c⟩ :: around) x →
    isExcluded (⟨before, c⟩ :: around) = false → Regular settings (toNode around before c) →
    x.sites settings = sitesAt settings (toNode around before c)

/-- A child is walked through or left out. -/
theorem sitesAt_child {settings : Settings} {w : Way} {pre : List Node} {c : Node} {test : Bool}
    (hfinds : Finds settings w pre c) (hregular : Regular settings (toNode w pre c))
    (hexcluded : isExcluded (⟨pre, c⟩ :: w) = (isSilent c.kind || !test)) {y : Visit}
    (hy : y.node = c) (hfits : Fits (⟨pre, c⟩ :: w) y) :
    sitesAt settings (toNode w pre c) = if test then y.sites settings else [] := by
  cases hopen : isExcluded (⟨pre, c⟩ :: w) with
  | true =>
    have hnone : sitesAt settings (toNode w pre c) = [] := by
      rw [sitesAt, nodes_toNode_of_isExcluded hopen]
      rfl
    rw [hnone]
    cases htest : test with
    | false => rfl
    | true =>
      rw [hexcluded, htest, Bool.not_true, Bool.or_false, ← hy] at hopen
      rw [if_pos rfl, sites_of_isSilent hfits hopen]
  | false =>
    have htest : test = true := by
      rw [hexcluded] at hopen
      simpa using (Bool.or_eq_false_iff.mp hopen).2
    rw [if_pos htest, hfinds y hy hfits hopen hregular]

/-- The children of a node at a position are walked through where they are parts of its code. -/
def Parts (settings : Settings) (w : Way) (n : Node) : Prop :=
  ∀ pre c post, n.children = pre ++ c :: post → ∀ y : Visit, y.node = c →
    Fits (⟨pre, c⟩ :: w) y →
    sitesAt settings (toNode w pre c) = if isPart n ⟨pre, c⟩ then y.sites settings else []

section Parts

variable {settings : Settings} {w : Way} {n : Node} (hparts : Parts settings w n)
include hparts

theorem sites_each (test : Node → Bool) (enter : Node → Visit)
    (htest : ∀ s, isPart n s = test s.node) (hnode : ∀ c, (enter c).node = c)
    (hfits : ∀ s, Fits (s :: w) (enter s.node)) :
    (Visit.each test enter n.children).flatMap (Visit.sites settings) =
      sitesAt settings (toNodes w [] n.children) := by
  have hchild : ∀ pre c post, n.children = pre ++ c :: post →
      sitesAt settings (toNode w pre c) = if test c then (enter c).sites settings else [] := by
    intro pre c post hcs
    rw [hparts pre c post hcs (enter c) (hnode c) (hfits ⟨pre, c⟩), htest]
  rw [sitesAt_each hchild n.children [] rfl, Visit.each, List.flatMap_map]

theorem sites_none (hnone : ∀ s, isPart n s = false) :
    sitesAt settings (toNodes w [] n.children) = [] := by
  have heach := sites_each hparts (fun _ => false) (.inside .pub) hnone (fun _ => rfl)
    fun s => fits_inside _ _ _
  rw [← heach, Visit.each, List.filter_false]
  rfl

theorem sites_first (test : Node → Bool) (enter : Node → Visit)
    (htest : ∀ s, isPart n s = (test s.node && !s.before.any test))
    (hnode : ∀ c, (enter c).node = c) (hfits : ∀ s, Fits (s :: w) (enter s.node)) :
    (Visit.first test enter n.children).flatMap (Visit.sites settings) =
      sitesAt settings (toNodes w [] n.children) := by
  have hchild : ∀ pre c post, n.children = pre ++ c :: post →
      sitesAt settings (toNode w pre c) =
        if test c && !pre.any test then (enter c).sites settings else [] := by
    intro pre c post hcs
    rw [hparts pre c post hcs (enter c) (hnode c) (hfits ⟨pre, c⟩), htest]
  rw [sitesAt_first hchild n.children [] rfl, Visit.flatMap_first]
  rfl

theorem sites_members (place : Place) (test : Node → Bool)
    (htest : ∀ s, isPart n s = test s.node)
    (hfits : place = .body → ∀ s, isBodyLevel (s :: w) = true) :
    (Visit.members place test .pub n.children).flatMap (Visit.sites settings) =
      sitesAt settings (toNodes w [] n.children) := by
  have hchild : ∀ pre c post, n.children = pre ++ c :: post → ∀ v,
      sitesAt settings (toNode w pre c) =
        if test c then Visit.sites settings ⟨c, .code place, v⟩ else [] := by
    intro pre c post hcs v
    rw [hparts pre c post hcs ⟨c, .code place, v⟩ rfl fun hplace => hfits hplace _, htest]
  rw [sitesAt_members hchild n.children [] rfl .pub]

theorem sites_sides (hkind : n.kind = .assignment ∨ n.kind = .operatorAssignment)
    (hsides : LeftFirst n.children) (v : Visibility) :
    (Visit.first isTarget (.inside v) n.children ++
      Visit.first (Node.plays .right) (.inside v) n.children).flatMap (Visit.sites settings) =
      sitesAt settings (toNodes w [] n.children) := by
  have hchild : ∀ pre c post, n.children = pre ++ c :: post →
      sitesAt settings (toNode w pre c) =
        if isTarget c && !pre.any isTarget || c.plays .right && !pre.any (Node.plays .right) then
          Visit.sites settings (.inside v c) else [] := by
    intro pre c post hcs
    rw [hparts pre c post hcs (.inside v c) rfl (fits_inside _ v c)]
    rcases hkind with hkind | hkind <;> simp only [isPart, hkind]
  have hleft : ∀ c : Node, isTarget c = true → c.plays .left = true := by
    intro c hc
    unfold isTarget at hc
    simp only [Bool.and_eq_true] at hc
    exact hc.1.1
  have horder : n.children.Pairwise fun c d => c.plays .right = true → isTarget d = false :=
    hsides.2.imp fun h hc => Bool.eq_false_iff.mpr fun hd => by
      have hnot := h hc
      rw [hleft _ hd] at hnot
      cases hnot
  rw [sitesAt_two hchild n.children [] rfl
    (fun c hc htarget => hsides.1 c hc (hleft c htarget)) horder, List.flatMap_append,
    Visit.flatMap_first, Visit.flatMap_first]
  rfl

end Parts

section Definitions

variable {settings : Settings} {around : Way} {before : List Node} {n : Node}
  (hparts : Parts settings (⟨before, n⟩ :: around) n)
include hparts

theorem sites_ofBody {place : Place} (hbody : hasBody n.children = true → ∀ s,
      isPart n s = (s.node.plays .body && !hasBody s.before))
    (hstatement : hasBody n.children = false → ∀ s, isPart n s = isStatement s.node)
    (hspace : place = .body → isSpace n = true) :
    (Visit.ofBody place n.children).flatMap (Visit.sites settings) =
      sitesAt settings (toNodes (⟨before, n⟩ :: around) [] n.children) := by
  unfold Visit.ofBody
  cases h : hasBody n.children with
  | true =>
    refine sites_first hparts _ _ (hbody h) (fun _ => rfl) fun s => ?_
    by_cases hkind : s.node.kind = .bodyStatement
    · simp only [hkind, if_true, Fits]
      exact ⟨trivial, fun hplace s' => by simp [isBodyLevel, hkind, hspace hplace, h]⟩
    · simp only [hkind, if_false, Fits]
      intro hplace
      simp [isBodyLevel, hkind, hspace hplace]
  | false =>
    refine sites_members hparts _ _ (hstatement h) fun hplace s => ?_
    simp [isBodyLevel, hspace hplace, h]

theorem sites_ofMethod (hbody : hasBody n.children = true → ∀ s,
      isPart n s = (s.node.plays .body && !hasBody s.before))
    (hstatement : hasBody n.children = false → ∀ s, isPart n s = isStatement s.node) :
    (Visit.ofMethod n.children).flatMap (Visit.sites settings) =
      sitesAt settings (toNodes (⟨before, n⟩ :: around) [] n.children) := by
  unfold Visit.ofMethod
  cases h : hasBody n.children with
  | true => exact sites_first hparts _ _ (hbody h) (fun _ => rfl) fun s => fits_inside _ _ _
  | false => exact sites_each hparts _ _ (hstatement h) (fun _ => rfl) fun s => fits_inside _ _ _

end Definitions

/-! ## Calls in a body -/

/-- A call that sets a visibility has no receiver and is given arguments. -/
theorem bodyCall_visibility {settings : Settings} {n : Node} {b : BodyCall}
    (h : bodyCall settings n = b) (hb : b.setsVisibility = true) :
    n.child? .receiver = none ∧ ∃ method arguments, n.child? .method = some method ∧
      n.child? .arguments = some arguments ∧
      visibilityCall? method (some arguments) = some b := by
  unfold bodyCall at h
  split at h
  · rename_i method hreceiver hmethod
    split at h
    · rename_i hcall
      subst h
      cases harguments : n.child? .arguments with
      | none =>
        simp [harguments, visibilityCall?] at hcall
      | some arguments => exact ⟨hreceiver, method, arguments, hmethod, rfl, harguments ▸ hcall⟩
    · split at h <;> subst h <;> cases hb
  · subst h
    cases hb

/-- A call that sets a visibility is no site. -/
theorem ofCall_visibility {settings : Settings} {n : Node}
    (h : (bodyCall settings n).setsVisibility = true)
    (hlookups : ∀ method ∈ n.child? .method,
      settings.lookupMethods.contains method.text = false) :
    Site.ofCall settings n = [] := by
  obtain ⟨hreceiver, method, -, hmethod, -⟩ := bodyCall_visibility rfl h
  have hform : Lookup.formOf? settings n = none := by
    simp only [Lookup.formOf?, hmethod, hreceiver, hlookups method hmethod]
    rfl
  simp only [Site.ofCall, Lookup.ofCall?, hform, Helper.ofCall?, hreceiver, hmethod]
  rfl

theorem isSome_plainText?_of_plainTexts? {ns : List Node} {texts : List String}
    (h : Node.plainTexts? ns = some texts) : ∀ n ∈ ns, n.plainText?.isSome = true := by
  induction ns generalizing texts with
  | nil => exact List.forall_mem_nil _
  | cons n ns ih =>
    rw [Node.plainTexts?] at h
    cases hn : n.plainText? with
    | none => simp [hn] at h
    | some text =>
      cases hns : Node.plainTexts? ns with
      | none => simp [hn, hns] at h
      | some texts' => exact List.forall_mem_cons.mpr ⟨by simp [hn], ih hns⟩

/-- All arguments of a call that names methods are their names. -/
theorem isSome_plainText?_of_directive {settings : Settings} {n arguments : Node}
    {names : List String} {w : Visibility} (h : bodyCall settings n = .directive names w)
    (harguments : n.child? .arguments = some arguments) :
    ∀ a ∈ arguments.named, a.plainText?.isSome = true := by
  obtain ⟨-, method, arguments', -, harguments', hcall⟩ := bodyCall_visibility h rfl
  cases harguments.symm.trans harguments'
  unfold visibilityCall? at hcall
  cases hname : Visibility.ofName? method.text with
  | none => simp [hname] at hcall
  | some v =>
    simp only [hname] at hcall
    split at hcall
    · simp at hcall
    · split at hcall
      · rename_i hnames
        exact isSome_plainText?_of_plainTexts? hnames
      · cases hcall

/-- A call has one argument list, so none comes before it. -/
theorem OnlyArguments.none_before {n : Node} (honly : OnlyArguments n) {pre post : List Node}
    {c : Node} (hcs : n.children = pre ++ c :: post) (harguments : c.plays .arguments = true) :
    pre.any (Node.plays .arguments) = false := by
  have hone := honly.2.2
  rw [hcs, List.countP_append, List.countP_cons_of_pos harguments] at hone
  have hzero : pre.countP (Node.plays .arguments) = 0 := by omega
  rw [List.countP_eq_zero] at hzero
  simpa using hzero

theorem OnlyArguments.child? {n : Node} (honly : OnlyArguments n) {pre post : List Node} {c : Node}
    (hcs : n.children = pre ++ c :: post) (harguments : c.plays .arguments = true) :
    n.child? .arguments = some c := by
  have hnone : pre.find? (Node.plays .arguments) = none := by
    simpa [List.find?_eq_none] using honly.none_before hcs harguments
  rw [Node.child?, hcs, List.find?_append, hnone, List.find?_cons_of_pos harguments]
  rfl

section Visibility

variable {settings : Settings} {w : Way} {n : Node} (hparts : Parts settings w n)
include hparts

/-- Nothing but the arguments of a call that sets a visibility has sites. -/
theorem sitesAt_beside (hkind : n.kind = .call) (honly : OnlyArguments n) {pre post : List Node}
    {c : Node} (hcs : n.children = pre ++ c :: post) (harguments : c.plays .arguments = false) :
    sitesAt settings (toNode w pre c) = [] := by
  have hc := honly.1 c (by simp [hcs])
  rw [hparts pre c post hcs (.inside .pub c) rfl (fits_inside _ _ _)]
  cases hpart : isPart n ⟨pre, c⟩ with
  | false => rfl
  | true =>
    simp only [isPart, hkind, Bool.and_eq_true, Bool.not_eq_true'] at hpart
    have hcomment : c.kind = .comment := by simpa [harguments, hpart] using hc
    refine sites_of_isSilent (fits_inside (⟨pre, c⟩ :: w) .pub c) ?_
    simp [isSilent, Visit.inside, hcomment]

theorem sites_arguments (hkind : n.kind = .call) (honly : OnlyArguments n) {pre post : List Node}
    {c : Node} (hcs : n.children = pre ++ c :: post) (harguments : c.plays .arguments = true)
    (u v : Visibility) :
    sitesAt settings (toNode w pre c) = Visit.sites settings ⟨c, .wrapped u, v⟩ := by
  have hmem : c ∈ n.children := by simp [hcs]
  have hc := honly.1 c hmem
  rw [hparts pre c post hcs ⟨c, .wrapped u, v⟩ rfl (honly.2.1 c hmem harguments)]
  have hpart : isPart n ⟨pre, c⟩ = true := by
    simp only [isPart, hkind]
    simp only [harguments] at hc
    exact (Bool.and_eq_true_iff.mp hc.symm).1
  rw [if_pos hpart]

/-- The sites of a call that sets the visibility of the methods in its arguments. -/
theorem sites_wrapper (hkind : n.kind = .call) (honly : OnlyArguments n) (u v : Visibility) :
    (Visit.first (Node.plays .arguments) (⟨·, .wrapped u, v⟩) n.children).flatMap
      (Visit.sites settings) = sitesAt settings (toNodes w [] n.children) := by
  have hchild : ∀ pre c post, n.children = pre ++ c :: post →
      sitesAt settings (toNode w pre c) =
        if c.plays .arguments && !pre.any (Node.plays .arguments) then
          Visit.sites settings ⟨c, .wrapped u, v⟩ else [] := by
    intro pre c post hcs
    cases harguments : c.plays .arguments with
    | false => exact sitesAt_beside hparts hkind honly hcs harguments
    | true =>
      rw [honly.none_before hcs harguments]
      exact sites_arguments hparts hkind honly hcs harguments u v
  rw [sitesAt_first hchild n.children [] rfl, Visit.flatMap_first]
  rfl

/-- A call that sets the visibility of the methods it names has no sites. -/
theorem sites_directive (hkind : n.kind = .call) (honly : OnlyArguments n)
    (hnames : ∀ arguments, n.child? .arguments = some arguments →
      ∀ a ∈ arguments.named, a.everywhere (·.kind ≠ .call) = true) :
    sitesAt settings (toNodes w [] n.children) = [] := by
  have hchild : ∀ pre c post, n.children = pre ++ c :: post →
      sitesAt settings (toNode w pre c) = if (fun _ : Node => false) c then [] else [] := by
    intro pre c post hcs
    cases harguments : c.plays .arguments with
    | false => exact sitesAt_beside hparts hkind honly hcs harguments
    | true =>
      rw [sites_arguments hparts hkind honly hcs harguments .pub .pub, Visit.sites_eq,
        Visit.sites_frame]
      refine List.flatMap_eq_nil_iff.mpr fun y hy => ?_
      obtain ⟨a, ha, rfl⟩ := List.mem_map.mp hy
      exact Visit.sites_eq_nil settings _ (hnames c (honly.child? hcs harguments) a ha)
  rw [sitesAt_each hchild n.children [] rfl]
  simp

end Visibility

/-! ## Every position -/

theorem isPart_body {n : Node} (hkind : n.kind = .classDef ∨ n.kind = .moduleDef ∨
      n.kind = .method ∨ n.kind = .singletonMethod ∨ n.kind = .singletonClass)
    (h : hasBody n.children = true) (s : Step) :
    isPart n s = (s.node.plays .body && !hasBody s.before) := by
  rcases hkind with hkind | hkind | hkind | hkind | hkind <;> simp only [isPart, hkind, h, if_true]

theorem isPart_statement {n : Node} (hkind : n.kind = .classDef ∨ n.kind = .moduleDef ∨
      n.kind = .method ∨ n.kind = .singletonMethod ∨ n.kind = .singletonClass)
    (h : hasBody n.children = false) (s : Step) : isPart n s = isStatement s.node := by
  rcases hkind with hkind | hkind | hkind | hkind | hkind <;>
    simp only [isPart, hkind, h, Bool.false_eq_true, if_false]

theorem sitesAt_toNode {settings : Settings} {around : Way} {before : List Node} {n : Node}
    (hopen : isExcluded (⟨before, n⟩ :: around) = false) :
    sitesAt settings (toNode around before n) =
      (if n.kind = .call then Site.ofCall settings n else []) ++
        sitesAt settings (toNodes (⟨before, n⟩ :: around) [] n.children) := by
  rw [sitesAt, nodes_toNode hopen, callSites]
  by_cases hkind : n.kind = .call <;> simp [hkind, sitesAt, callSites]

/-- The sites of a call that stands as code at a position. -/
theorem sites_call {settings : Settings} {around : Way} {before : List Node} {n : Node}
    (hkind : n.kind = .call) (hopen : isExcluded (⟨before, n⟩ :: around) = false)
    (hregular : Regular settings (toNode around before n))
    (hparts : Parts settings (⟨before, n⟩ :: around) n) {place : Place} (v : Visibility)
    (hplace : place = .body → isBodyLevel (⟨before, n⟩ :: around) = true) :
    Visit.sites settings ⟨n, .code place, v⟩ = sitesAt settings (toNode around before n) := by
  have hbody : place = .body → n ∈ bodyCalls (toNode around before n) := by
    intro h
    have hw : (⟨before, n⟩ :: around : Way) ∈ toNode around before n := by
      obtain ⟨t, cs⟩ := n
      exact List.mem_cons_self
    exact List.mem_filter.mpr ⟨mem_nodes.mpr ⟨before, around,
      List.mem_filter.mpr ⟨hw, hplace h⟩, hopen⟩, by simpa using hkind⟩
  have hvisibility : ∀ b, bodyCall settings n = b → b.setsVisibility = true → place = .body →
      n ∈ visibilityCalls settings (toNode around before n) ∧ Site.ofCall settings n = [] := by
    rintro b rfl hsets h
    have hmem : n ∈ visibilityCalls settings (toNode around before n) :=
      List.mem_filter.mpr ⟨hbody h, hsets⟩
    exact ⟨hmem, ofCall_visibility hsets (hregular.lookups n hmem)⟩
  rw [Visit.sites_eq, Visit.sites_frame, sitesAt_toNode hopen, if_pos hkind]
  simp only [Visit.isCall, Visit.next, Visit.step, Visit.codeStep, hkind, decide_true,
    Bool.true_and]
  cases hcall : Visit.callAt settings place n with
  | plain =>
    simp only [BodyCall.isPlain, if_true]
    congr 1
    exact sites_each hparts _ _ (fun s => by simp only [isPart, hkind]) (fun _ => rfl)
      fun s => fits_inside _ _ _
  | callback r =>
    obtain ⟨h, hcall⟩ := Visit.callAt_ne_plain hcall rfl
    have := hregular.callbacks n (hbody h)
    rw [hcall] at this
    cases this
  | wrapper u =>
    obtain ⟨h, hcall⟩ := Visit.callAt_ne_plain hcall rfl
    obtain ⟨hmem, hsites⟩ := hvisibility _ hcall rfl h
    rw [hsites]
    exact sites_wrapper hparts hkind (hregular.noBlock n hmem) u v
  | directive names u =>
    obtain ⟨h, hcall⟩ := Visit.callAt_ne_plain hcall rfl
    obtain ⟨hmem, hsites⟩ := hvisibility _ hcall rfl h
    have hnone := sites_directive hparts hkind (hregular.noBlock n hmem)
      fun arguments harguments a ha => hregular.names n hmem arguments harguments a ha
        (isSome_plainText?_of_directive hcall harguments a ha)
    rw [hsites, hnone]
    rfl

/-- The sites of code at a position, whatever it is. -/
theorem sites_codeAt {settings : Settings} {around : Way} {before : List Node} {n : Node}
    (hopen : isExcluded (⟨before, n⟩ :: around) = false)
    (hregular : Regular settings (toNode around before n))
    (hparts : Parts settings (⟨before, n⟩ :: around) n) {place : Place} (v : Visibility)
    (hplace : place = .body → isBodyLevel (⟨before, n⟩ :: around) = true) :
    Visit.sites settings ⟨n, .code place, v⟩ = sitesAt settings (toNode around before n) := by
  have hself : n ∈ nodes (toNode around before n) := by
    rw [nodes_toNode hopen]
    exact List.mem_cons_self
  by_cases hcall : n.kind = .call
  · exact sites_call hcall hopen hregular hparts v hplace
  have hnext : (Visit.codeStep settings place v n).2.flatMap (Visit.sites settings) =
      sitesAt settings (toNodes (⟨before, n⟩ :: around) [] n.children) := by
    have hother : (∀ s, isPart n s = s.node.isNamed) →
        (Visit.each Node.isNamed (.inside v) n.children).flatMap (Visit.sites settings) =
          sitesAt settings (toNodes (⟨before, n⟩ :: around) [] n.children) :=
      fun hpart => sites_each hparts _ _ hpart (fun _ => rfl) fun s => fits_inside _ _ _
    cases hkind : n.kind with
    | call => exact absurd hkind hcall
    | classDef | moduleDef =>
      simp only [Visit.codeStep, hkind]
      exact sites_ofBody hparts (isPart_body (by simp [hkind])) (isPart_statement (by simp [hkind]))
        fun _ => by simp [isSpace, hkind]
    | singletonClass =>
      simp only [Visit.codeStep, hkind]
      exact sites_ofBody hparts (isPart_body (by simp [hkind])) (isPart_statement (by simp [hkind]))
        fun h => by cases h
    | singletonMethod =>
      simp only [Visit.codeStep, hkind]
      exact sites_ofMethod hparts (isPart_body (by simp [hkind]))
        (isPart_statement (by simp [hkind]))
    | method =>
      obtain ⟨name, hname⟩ := Option.isSome_iff_exists.mp (hregular.named n hself hkind)
      obtain ⟨owner, howner⟩ : ∃ owner, methodOwner? place v n = some owner := by
        unfold methodOwner?
        split
        · exact ⟨_, rfl⟩
        · exact ⟨_, by rw [hname]; rfl⟩
      simp only [Visit.codeStep, hkind, howner]
      exact sites_ofMethod hparts (isPart_body (by simp [hkind]))
        (isPart_statement (by simp [hkind]))
    | assignment | operatorAssignment =>
      simp only [Visit.codeStep, hkind]
      exact sites_sides hparts (by simp [hkind]) (hregular.sides n hself (by simp [hkind])) v
    | identifier =>
      simp only [Visit.codeStep, hkind]
      exact (sites_none hparts fun s => by simp only [isPart, hkind]).symm
    | methodParameters | parameters | blockParameters | lambdaParameters | exceptionVariable
    | comment =>
      have hsilent := isSilent_eq_false hopen
      rw [hkind] at hsilent
      cases hsilent
    | _ =>
      simp only [Visit.codeStep, hkind]
      exact hother fun s => by simp only [isPart, hkind]
  rw [Visit.sites_eq, Visit.sites_frame, sitesAt_toNode hopen, if_neg hcall, ← hnext]
  simp [Visit.isCall, hcall, Visit.next, Visit.step]

/-- The walk finds the sites of every position. -/
theorem finds (settings : Settings) (n : Node) (around : Way) (before : List Node) :
    Finds settings around before n := by
  induction n using Node.induct generalizing around before with
  | h t cs ih =>
    intro x hx hfits hopen hregular
    have hparts : Parts settings (⟨before, ⟨t, cs⟩⟩ :: around) ⟨t, cs⟩ := by
      intro pre c post hcs y hy hfitsy
      have hc : c ∈ cs := by
        rw [show cs = pre ++ c :: post from hcs]
        simp
      refine sitesAt_child (ih c hc _ pre) (hregular.mono (toNode_subset hcs)) ?_ hy hfitsy
      rw [isExcluded, hopen, Bool.or_false]
    obtain ⟨n, standing, v⟩ := x
    cases hx
    cases standing with
    | code place => exact sites_codeAt hopen hregular hparts v hfits
    | statements place =>
      have hkind : (Node.mk t cs).kind = .bodyStatement := hfits.1
      have hmembers := sites_members hparts place Node.isNamed
        (fun s => by simp only [isPart, hkind]) hfits.2
      rw [Visit.sites_eq, Visit.sites_frame, sitesAt_toNode hopen, ← hmembers]
      simp [Visit.isCall, Visit.next, Visit.step, hkind]
    | wrapped u =>
      have hkind : (Node.mk t cs).kind = .other "argument_list" := hfits
      have heach := sites_each hparts Node.isNamed
        (fun c => .inside (if c.kind = .method then u else v) c)
        (fun s => by simp only [isPart, hkind]) (fun _ => rfl) fun s => fits_inside _ _ _
      rw [Visit.sites_eq, Visit.sites_frame, sitesAt_toNode hopen, ← heach]
      simp [Visit.isCall, Visit.next, Visit.step, hkind]
    | loose => cases hfits
    | arguments => cases hfits

/-- The call sites of a file stand in its index in document order, each once. -/
theorem sites_in_document_order (settings : Settings) (root : Node)
    (hregular : Regular settings (Way.all root)) :
    (Index.ofTree settings root).sites.map (·.site) =
      ((nodes (Way.all root)).filter (·.kind = .call)).flatMap fun n =>
        ((Lookup.ofCall? settings n).map .lookup).toList ++
          ((Helper.ofCall? settings n).map .helper).toList := by
  have hchild : ∀ pre c post, root.children = pre ++ c :: post → ∀ v,
      sitesAt settings (toNode [] pre c) =
        if c.isNamed then Visit.sites settings ⟨c, .code .body, v⟩ else [] := by
    intro pre c post hcs v
    refine sitesAt_child (finds settings c [] pre) (hregular.mono ?_) ?_ rfl fun _ => rfl
    · rw [Way.all, hcs]
      exact toNode_subset_toNodes [] [] pre post c
    · rw [isExcluded]
  have hsites := sitesAt_members hchild root.children [] rfl .pub
  rw [Index.ofTree, Index.ofOutline, Item.map_site_sitesAll, Visit.ofTree_eq]
  rw [← Visit.sites, Visit.sites_eq, Visit.sites_frame]
  exact hsites.symm

/-- A lookup of a key without a receiver. -/
def lookupCall (role : List Role) (line : Nat) (key : String) : Node :=
  ⟨{ kind := .call, roles := role, line },
    [⟨{ kind := .identifier, roles := [.method], text := "t" }, []⟩,
      ⟨{ kind := .other "argument_list", roles := [.arguments] },
        [⟨{ kind := .simpleSymbol, text := key }, []⟩]⟩]⟩

/-- A class with a private method that has lookups in a parameter and in an assignment, and a call
that makes this method public again. -/
def showClass : Node :=
  ⟨{ kind := .other "program" },
    [⟨{ kind := .classDef },
      [⟨{ kind := .constant, roles := [.name], text := "Events" }, []⟩,
      ⟨{ kind := .bodyStatement, roles := [.body] },
        [⟨{ kind := .call },
          [⟨{ kind := .identifier, roles := [.method], text := "private" }, []⟩,
          ⟨{ kind := .other "argument_list", roles := [.arguments] },
            [⟨{ kind := .method },
              [⟨{ kind := .identifier, roles := [.name], text := "show" }, []⟩,
              ⟨{ kind := .methodParameters, roles := [.parameters] },
                [lookupCall [.value] 2 ":label"]⟩,
              ⟨{ kind := .assignment },
                [⟨{ kind := .identifier, roles := [.left], text := "title" }, []⟩,
                lookupCall [.right] 3 ":title"]⟩]⟩]⟩]⟩,
        ⟨{ kind := .call },
          [⟨{ kind := .identifier, roles := [.method], text := "public" }, []⟩,
          ⟨{ kind := .other "argument_list", roles := [.arguments] },
            [⟨{ kind := .simpleSymbol, text := ":show" }, []⟩]⟩]⟩,
        lookupCall [] 6 ":heading"]⟩]⟩]⟩

theorem sites_in_document_order_show :
    Regular {} (Way.all showClass) ∧
      (Index.ofTree {} showClass).sites.map (·.site) =
        [.lookup ⟨.short, some ⟨"title", false⟩, [], 3, 1⟩,
          .lookup ⟨.short, some ⟨"heading", false⟩, [], 6, 1⟩] := by
  have hregular : Regular {} (Way.all showClass) :=
    { named := by decide +kernel
      sides := by decide +kernel
      callbacks := by decide +kernel
      noBlock := by decide +kernel
      names := by decide +kernel
      lookups := by decide +kernel }
  exact ⟨hregular, (sites_in_document_order {} showClass hregular).trans (by decide +kernel)⟩

end Way

end LocaleKeys

import LocaleKeys.Proofs.Index
import LocaleKeys.Proofs.Node

/-!
# Proofs: the walk through a tree

The outline of a tree is made by functions that call each other, one for each way to go on from a
node. Here the same walk is told one step at a time: a visit is a node with the way it is looked at,
and a step says what a visit adds to the outline and which visits follow it. Whatever is shown for
every step then holds of the outline by one induction.
-/

namespace LocaleKeys.Outline

open Ast

/-- How a node is looked at. -/
inductive Standing where
  /-- As code at a place. -/
  | code (place : Place)
  /-- As code that nobody owns, among the arguments of a call that registers a callback. -/
  | loose
  /-- As the statements of a body. -/
  | statements (place : Place)
  /-- As the arguments of a call that sets the visibility of the methods defined in them. -/
  | wrapped (w : Visibility)
  /-- As the arguments of a call that registers a callback. -/
  | arguments
  deriving DecidableEq, Repr

/-- A node as the walk comes to it. -/
structure Visit where
  /-- The node. -/
  node : Node
  /-- How it is looked at. -/
  standing : Standing
  /-- The visibility of the methods that are defined there. -/
  visibility : Visibility

/-- What a visit adds to the outline around the items of the visits that follow. -/
inductive Frame where
  /-- A namespace around them. -/
  | space (s : Space)
  /-- An owner of them. -/
  | owned (owner : Owner)
  /-- Some items before them. -/
  | after (items : List Item)

/-- The items of a frame with those inside it. -/
def Frame.wrap : Frame → List Item → List Item
  | .space s, inner => [.space s inner]
  | .owned owner, inner => [.owned owner inner]
  | .after items, inner => items ++ inner

namespace Visit

/-! ## Visits to children -/

/-- Some code inside other code. -/
def inside (v : Visibility) (n : Node) : Visit := ⟨n, .code .inside, v⟩

/-- Visits to the children that pass a test. -/
def each (test : Node → Bool) (enter : Node → Visit) (cs : List Node) : List Visit :=
  (cs.filter test).map enter

/-- A visit to the first child that passes a test. -/
def first (test : Node → Bool) (enter : Node → Visit) (cs : List Node) : List Visit :=
  ((cs.find? test).map enter).toList

/-- Visits to the members of a body that pass a test. `v` is the visibility in force. -/
def members (place : Place) (test : Node → Bool) (v : Visibility) : List Node → List Visit
  | [] => []
  | c :: cs =>
    if test c then ⟨c, .code place, v⟩ :: members place test (visibilityAfter place v c) cs
    else members place test v cs

/-- Visits to the arguments of a call that registers a callback. -/
def callbackArguments (seen : Bool) : List Node → List Visit
  | [] => []
  | c :: cs =>
    if c.isNamed && Arguments.isPositional seen c.kind (cs.filter Node.isNamed) then
      (if c.kind = .lambda then [inside .pub c]
        else if c.plainText?.isSome then []
        else [⟨c, .loose, .pub⟩]) ++ callbackArguments true cs
    else callbackArguments seen cs

/-- Visits to the members of a definition with a body of its own. -/
def ofBody (place : Place) (cs : List Node) : List Visit :=
  if hasBody cs then
    first (Node.plays .body)
      (fun b => ⟨b, if b.kind = .bodyStatement then .statements place else .code place, .pub⟩) cs
  else members place isStatement .pub cs

/-- Visits to the code of a method. -/
def ofMethod (cs : List Node) : List Visit :=
  if hasBody cs then first (Node.plays .body) (inside .pub) cs
  else each isStatement (inside .pub) cs

/-! ## Steps -/

/-- What a call is at a place. -/
def callAt (settings : Settings) (place : Place) (n : Node) : BodyCall :=
  if place = .body then bodyCall settings n else .plain

/-- What a call adds to the outline, and the visits after it. -/
def callStep (v : Visibility) (settings : Settings) (n : Node) : BodyCall → Frame × List Visit
  | .wrapper w => (.after [], first (Node.plays .arguments) (⟨·, .wrapped w, v⟩) n.children)
  | .directive names w => (.after [.directive names w], [])
  | .callback r =>
    (.owned (.callback r),
      first (Node.plays .arguments) (⟨·, .arguments, .pub⟩) n.children ++
        first (blockTest n.children) (inside .pub) n.children)
  | .plain =>
    (.after ((Site.ofCall settings n).map .site ++ bareCallOf n),
      each (fun c => c.isNamed && !c.plays .method) (inside v) n.children)

/-- What code adds to the outline, and the visits after it. -/
def codeStep (settings : Settings) (place : Place) (v : Visibility) (n : Node) :
    Frame × List Visit :=
  match n.kind with
  | .classDef | .moduleDef => (.space (spaceOf settings n), ofBody .body n.children)
  | .singletonClass => (.owned .nobody, ofBody .singletonBody n.children)
  | .method =>
    match methodOwner? place v n with
    | none => (.after [], [])
    | some owner => (.owned owner, ofMethod n.children)
  | .singletonMethod => (.owned .nobody, ofMethod n.children)
  | .methodParameters | .parameters | .blockParameters | .lambdaParameters
  | .exceptionVariable | .comment => (.after [], [])
  | .call => callStep v settings n (callAt settings place n)
  | .identifier =>
    (.after (if place = .body && (Visibility.ofName? n.text).isSome then []
      else [.bareCall n.text n.line]), [])
  | .assignment | .operatorAssignment =>
    (.after [], first isTarget (inside v) n.children ++
      first (Node.plays .right) (inside v) n.children)
  | _ => (.after [], each Node.isNamed (inside v) n.children)

/-- What a visit adds to the outline, and the visits after it. -/
def step (settings : Settings) (x : Visit) : Frame × List Visit :=
  match x.standing with
  | .code place => codeStep settings place x.visibility x.node
  | .loose => (.owned .nobody, [inside .pub x.node])
  | .statements place => (.after [], members place Node.isNamed .pub x.node.children)
  | .wrapped w =>
    (.after [],
      each Node.isNamed (fun c => inside (if c.kind = .method then w else x.visibility) c)
        x.node.children)
  | .arguments => (.after [], callbackArguments false x.node.children)

/-- What a visit adds to the outline. -/
def frame (settings : Settings) (x : Visit) : Frame := (x.step settings).1

/-- The visits after a visit, in order. -/
def next (settings : Settings) (x : Visit) : List Visit := (x.step settings).2

/-- The items that a visit and those after it give. -/
def outline (settings : Settings) (x : Visit) : List Item :=
  match x.standing with
  | .code place => items settings place x.visibility x.node
  | .loose => [.owned .nobody (items settings .inside .pub x.node)]
  | .statements place => memberItems settings place Node.isNamed .pub x.node.children
  | .wrapped w =>
    eachItems settings (fun c => if c.kind = .method then w else x.visibility) Node.isNamed
      x.node.children
  | .arguments => Outline.callbackArguments settings false x.node.children

/-- The visit to a file, whose children are the members of a body. -/
def file (root : Node) : Visit := ⟨root, .statements .body, .pub⟩

/-! ## The outline step by step -/

theorem each_cons (test : Node → Bool) (enter : Node → Visit) (c : Node) (cs : List Node) :
    each test enter (c :: cs) = (if test c then [enter c] else []) ++ each test enter cs := by
  unfold each
  by_cases h : test c = true <;> simp [h]

theorem first_cons (test : Node → Bool) (enter : Node → Visit) (c : Node) (cs : List Node) :
    first test enter (c :: cs) = if test c then [enter c] else first test enter cs := by
  unfold first
  by_cases h : test c = true <;> simp [h]

theorem flatMap_first {α : Type} (test : Node → Bool) (enter : Node → Visit) (f : Visit → List α)
    (cs : List Node) :
    (first test enter cs).flatMap f = ((cs.find? test).map fun c => f (enter c)).getD [] := by
  unfold first
  cases cs.find? test <;> simp

theorem eachItems_eq (settings : Settings) (v : Node → Visibility) (test : Node → Bool)
    (cs : List Node) :
    eachItems settings v test cs =
      (each test (fun c => inside (v c) c) cs).flatMap (outline settings) := by
  induction cs with
  | nil => rfl
  | cons c cs ih =>
    rw [eachItems, ih, each_cons, List.flatMap_append]
    by_cases h : test c = true <;> simp [h, outline, inside]

/-- Functions that look for the first child that passes a test make a visit to it. -/
theorem eq_flatMap_first {settings : Settings} {test : Node → Bool} {enter : Node → Visit}
    {f : List Node → List Item} (hnil : f [] = [])
    (hcons : ∀ c cs, f (c :: cs) = if test c then outline settings (enter c) else f cs)
    (cs : List Node) : f cs = (first test enter cs).flatMap (outline settings) := by
  induction cs with
  | nil => exact hnil
  | cons c cs ih =>
    rw [hcons, ih, first_cons]
    by_cases h : test c = true <;> simp [h]

theorem firstItems_eq (settings : Settings) (v : Visibility) (test : Node → Bool)
    (cs : List Node) :
    firstItems settings v test cs = (first test (inside v) cs).flatMap (outline settings) :=
  eq_flatMap_first (by rw [firstItems]) (fun c cs => by rw [firstItems]; rfl) cs

theorem memberItems_eq (settings : Settings) (place : Place) (test : Node → Bool)
    (v : Visibility) (cs : List Node) :
    memberItems settings place test v cs =
      (members place test v cs).flatMap (outline settings) := by
  induction cs generalizing v with
  | nil => rfl
  | cons c cs ih =>
    rw [memberItems, members]
    by_cases h : test c = true
    · rw [if_pos h, if_pos h, List.flatMap_cons, ← ih]
      rfl
    · rw [if_neg h, if_neg h, ih]

theorem ofBody_eq (settings : Settings) (place : Place) (cs : List Node) :
    (if hasBody cs then bodyItems settings place cs
      else memberItems settings place isStatement .pub cs) =
      (ofBody place cs).flatMap (outline settings) := by
  unfold ofBody
  by_cases h : hasBody cs = true
  · rw [if_pos h, if_pos h]
    refine eq_flatMap_first (by rw [bodyItems]) (fun c cs => ?_) cs
    obtain ⟨t, ds⟩ := c
    rw [bodyItems]
    by_cases hkind : t.kind = .bodyStatement
    · simp only [outline, Node.kind, Node.tag, hkind, if_true, Node.children]
    · simp only [outline, Node.kind, Node.tag, hkind, if_false]
  · rw [if_neg h, if_neg h, memberItems_eq]

theorem ofMethod_eq (settings : Settings) (cs : List Node) :
    (if hasBody cs then firstItems settings .pub (Node.plays .body) cs
      else eachItems settings (fun _ => .pub) isStatement cs) =
      (ofMethod cs).flatMap (outline settings) := by
  unfold ofMethod
  by_cases h : hasBody cs = true
  · rw [if_pos h, if_pos h, firstItems_eq]
  · rw [if_neg h, if_neg h, eachItems_eq]

theorem wrappedItems_eq (settings : Settings) (w v : Visibility) (cs : List Node) :
    wrappedItems settings w v cs =
      (first (Node.plays .arguments) (⟨·, .wrapped w, v⟩) cs).flatMap (outline settings) := by
  refine eq_flatMap_first (by rw [wrappedItems]) (fun c cs => ?_) cs
  obtain ⟨t, ds⟩ := c
  rw [wrappedItems]
  rfl

theorem callbackItems_eq (settings : Settings) (cs : List Node) :
    callbackItems settings cs =
      (first (Node.plays .arguments) (⟨·, .arguments, .pub⟩) cs).flatMap (outline settings) := by
  refine eq_flatMap_first (by rw [callbackItems]) (fun c cs => ?_) cs
  obtain ⟨t, ds⟩ := c
  rw [callbackItems]
  rfl

theorem callbackArguments_eq (settings : Settings) (seen : Bool) (cs : List Node) :
    Outline.callbackArguments settings seen cs =
      (callbackArguments seen cs).flatMap (outline settings) := by
  induction cs generalizing seen with
  | nil => rfl
  | cons c cs ih =>
    rw [Outline.callbackArguments, callbackArguments, ih, ih]
    split
    · rw [List.flatMap_append]
      congr 1
      by_cases hlambda : c.kind = .lambda
      · simp [hlambda, outline, inside]
      · by_cases htext : c.plainText?.isSome = true <;> simp [hlambda, htext, outline]
    · rfl

/-- The outline of code is what its step adds around the outlines of the visits after it. -/
theorem items_eq (settings : Settings) (place : Place) (v : Visibility) (n : Node) :
    items settings place v n =
      (codeStep settings place v n).1.wrap
        ((codeStep settings place v n).2.flatMap (outline settings)) := by
  obtain ⟨t, cs⟩ := n
  cases hkind : t.kind with
  | call =>
    have hcall : (if place = .body then bodyCall settings ⟨t, cs⟩ else .plain) =
        callAt settings place ⟨t, cs⟩ := rfl
    simp only [items, codeStep, Node.kind, Node.tag, hkind, hcall]
    cases callAt settings place ⟨t, cs⟩ with
    | wrapper w => simp only [callStep, Frame.wrap, wrappedItems_eq, Node.children, List.nil_append]
    | directive names w => rfl
    | callback r =>
      simp only [callStep, Frame.wrap, callbackItems_eq, firstItems_eq, Node.children,
        List.flatMap_append]
    | plain => simp only [callStep, Frame.wrap, eachItems_eq, Node.children]
  | method =>
    simp only [items, codeStep, Node.kind, Node.tag, hkind, Node.children, ofMethod_eq]
    cases methodOwner? place v ⟨t, cs⟩ <;> rfl
  | identifier =>
    simp only [items, codeStep, Node.kind, Node.tag, hkind, Frame.wrap, List.flatMap_nil,
      List.append_nil]
    rfl
  | singletonMethod =>
    simp only [items, codeStep, Node.kind, Node.tag, hkind, Node.children, ofMethod_eq, Frame.wrap]
  | _ =>
    simp only [items, codeStep, Node.kind, Node.tag, hkind, Frame.wrap, Node.children, ofBody_eq,
      firstItems_eq, eachItems_eq, List.flatMap_append, List.flatMap_nil, List.nil_append]

/-- The outline of a visit is what its step adds around the outlines of the visits after it. -/
theorem outline_eq (settings : Settings) (x : Visit) :
    x.outline settings =
      (x.frame settings).wrap ((x.next settings).flatMap (outline settings)) := by
  obtain ⟨n, standing, v⟩ := x
  cases standing with
  | code place => exact items_eq settings place v n
  | loose => simp only [outline, frame, next, step, inside, Frame.wrap, List.flatMap_cons,
      List.flatMap_nil, List.append_nil]
  | statements place => exact memberItems_eq settings place Node.isNamed .pub n.children
  | wrapped w => exact eachItems_eq settings _ Node.isNamed n.children
  | arguments => exact callbackArguments_eq settings false n.children

theorem ofTree_eq (settings : Settings) (root : Node) :
    ofTree settings root = (file root).outline settings := rfl

/-! ## Induction along the walk -/

theorem node_mem_of_mem_each {test : Node → Bool} {enter : Node → Visit} {cs : List Node}
    {y : Visit} (henter : ∀ c, (enter c).node = c) (h : y ∈ each test enter cs) :
    y.node ∈ cs := by
  obtain ⟨c, hc, rfl⟩ := List.mem_map.mp h
  rw [henter]
  exact (List.mem_filter.mp hc).1

theorem node_mem_of_mem_first {test : Node → Bool} {enter : Node → Visit} {cs : List Node}
    {y : Visit} (henter : ∀ c, (enter c).node = c) (h : y ∈ first test enter cs) :
    y.node ∈ cs := by
  obtain ⟨c, hc, rfl⟩ := Option.map_eq_some_iff.mp (Option.mem_toList.mp h)
  rw [henter]
  exact List.mem_of_find?_eq_some hc

theorem node_mem_of_mem_members {place : Place} {test : Node → Bool} {v : Visibility}
    {cs : List Node} {y : Visit} (h : y ∈ members place test v cs) : y.node ∈ cs := by
  induction cs generalizing v with
  | nil => cases h
  | cons c cs ih =>
    rw [members] at h
    split at h
    · rcases List.mem_cons.mp h with rfl | h
      · exact List.mem_cons_self
      · exact List.mem_cons_of_mem c (ih h)
    · exact List.mem_cons_of_mem c (ih h)

theorem node_mem_of_mem_callbackArguments {seen : Bool} {cs : List Node} {y : Visit}
    (h : y ∈ callbackArguments seen cs) : y.node ∈ cs := by
  induction cs generalizing seen with
  | nil => cases h
  | cons c cs ih =>
    rw [callbackArguments] at h
    split at h
    · rcases List.mem_append.mp h with h | h
      · have hnode : y.node = c := by
          split at h
          · rw [List.mem_singleton.mp h]
            rfl
          · split at h
            · cases h
            · rw [List.mem_singleton.mp h]
        rw [hnode]
        exact List.mem_cons_self
      · exact List.mem_cons_of_mem c (ih h)
    · exact List.mem_cons_of_mem c (ih h)

theorem node_mem_of_mem_ofBody {place : Place} {cs : List Node} {y : Visit}
    (h : y ∈ ofBody place cs) : y.node ∈ cs := by
  unfold ofBody at h
  split at h
  · exact node_mem_of_mem_first (fun _ => rfl) h
  · exact node_mem_of_mem_members h

theorem node_mem_of_mem_ofMethod {cs : List Node} {y : Visit} (h : y ∈ ofMethod cs) :
    y.node ∈ cs := by
  unfold ofMethod at h
  split at h
  · exact node_mem_of_mem_first (fun _ => rfl) h
  · exact node_mem_of_mem_each (fun _ => rfl) h

theorem node_mem_of_mem_callStep {settings : Settings} {v : Visibility} {n : Node} {b : BodyCall}
    {y : Visit} (h : y ∈ (callStep v settings n b).2) : y.node ∈ n.children := by
  cases b with
  | wrapper w => exact node_mem_of_mem_first (fun _ => rfl) h
  | directive names w => cases h
  | callback r =>
    rcases List.mem_append.mp h with h | h
    · exact node_mem_of_mem_first (fun _ => rfl) h
    · exact node_mem_of_mem_first (fun _ => rfl) h
  | plain => exact node_mem_of_mem_each (fun _ => rfl) h

theorem node_mem_of_mem_codeStep {settings : Settings} {place : Place} {v : Visibility} {n : Node}
    {y : Visit} (h : y ∈ (codeStep settings place v n).2) : y.node ∈ n.children := by
  unfold codeStep at h
  split at h
  · exact node_mem_of_mem_ofBody h
  · exact node_mem_of_mem_ofBody h
  · exact node_mem_of_mem_ofBody h
  · split at h
    · cases h
    · exact node_mem_of_mem_ofMethod h
  · exact node_mem_of_mem_ofMethod h
  · cases h
  · cases h
  · cases h
  · cases h
  · cases h
  · cases h
  · exact node_mem_of_mem_callStep h
  · cases h
  · rcases List.mem_append.mp h with h | h
    · exact node_mem_of_mem_first (fun _ => rfl) h
    · exact node_mem_of_mem_first (fun _ => rfl) h
  · rcases List.mem_append.mp h with h | h
    · exact node_mem_of_mem_first (fun _ => rfl) h
    · exact node_mem_of_mem_first (fun _ => rfl) h
  · exact node_mem_of_mem_each (fun _ => rfl) h

/-- The walk goes on to a child, or looks at a loose argument as code. -/
theorem mem_next {settings : Settings} {x y : Visit} (h : y ∈ x.next settings) :
    y.node ∈ x.node.children ∨ x.standing = .loose ∧ y = inside .pub x.node := by
  obtain ⟨n, standing, v⟩ := x
  cases standing with
  | code place => exact Or.inl (node_mem_of_mem_codeStep h)
  | loose => exact Or.inr ⟨rfl, List.mem_singleton.mp h⟩
  | statements place => exact Or.inl (node_mem_of_mem_members h)
  | wrapped w => exact Or.inl (node_mem_of_mem_each (fun _ => rfl) h)
  | arguments => exact Or.inl (node_mem_of_mem_callbackArguments h)

/-- How far the walk goes on from a visit. -/
noncomputable def size (x : Visit) : Nat := 2 * sizeOf x.node + if x.standing = .loose then 1 else 0

theorem size_lt_of_mem_next {settings : Settings} {x y : Visit} (h : y ∈ x.next settings) :
    y.size < x.size := by
  rcases mem_next h with hchild | ⟨hloose, rfl⟩
  · have hlt : sizeOf y.node < sizeOf x.node := by
      obtain ⟨⟨t, cs⟩, standing, v⟩ := x
      have := List.sizeOf_lt_of_mem hchild
      simp only [Node.children] at this
      simp only [Node.mk.sizeOf_spec]
      omega
    unfold size
    split <;> split <;> omega
  · simp [size, inside, hloose]

/-- What holds of a visit whenever it holds of the visits after it holds of all visits. -/
theorem induct (settings : Settings) {P : Visit → Prop}
    (h : ∀ x, (∀ y ∈ x.next settings, P y) → P x) (x : Visit) : P x :=
  h x fun y _ => induct settings h y
termination_by x.size
decreasing_by exact size_lt_of_mem_next ‹_›

/-- Settings under which every step is the same give the same outlines. -/
theorem outline_congr {settings settings' : Settings}
    (h : ∀ x : Visit, x.step settings = x.step settings') (x : Visit) :
    x.outline settings = x.outline settings' := by
  induction x using induct settings with
  | h x ih =>
    have hframe : x.frame settings = x.frame settings' := congrArg Prod.fst (h x)
    have hnext : x.next settings = x.next settings' := congrArg Prod.snd (h x)
    rw [outline_eq settings, outline_eq settings', ← hframe, ← hnext]
    exact congrArg _ (List.flatMap_congr ih)

/-- A step asks the settings for three things only. -/
theorem step_congr {settings settings' : Settings} (hspace : spaceOf settings = spaceOf settings')
    (hbody : bodyCall settings = bodyCall settings')
    (hsite : Site.ofCall settings = Site.ofCall settings') (x : Visit) :
    x.step settings = x.step settings' := by
  obtain ⟨n, standing, v⟩ := x
  cases standing with
  | code place => simp only [step, codeStep, callAt, callStep, hspace, hbody, hsite]
  | _ => rfl

end Visit

/-- Settings under which nodes mean the same give the same index. -/
theorem ofTree_congr {settings settings' : Settings} (hspace : spaceOf settings = spaceOf settings')
    (hbody : bodyCall settings = bodyCall settings')
    (hsite : Site.ofCall settings = Site.ofCall settings') (root : Node) :
    Index.ofTree settings root = Index.ofTree settings' root :=
  congrArg Index.ofOutline
    (Visit.outline_congr (Visit.step_congr hspace hbody hsite) (.file root))

/-! ## Sites along the walk -/

/-- Does a call set the visibility of methods? -/
def BodyCall.setsVisibility : BodyCall → Bool
  | .wrapper _ | .directive .. => true
  | .callback _ | .plain => false

/-- Does a call register a callback? -/
def BodyCall.registers : BodyCall → Bool
  | .callback _ => true
  | _ => false

/-- Is a call neither of these? -/
def BodyCall.isPlain : BodyCall → Bool
  | .plain => true
  | _ => false

/-- The sites that a frame adds. -/
def Frame.sites : Frame → List Site
  | .after items => Item.siteListAll items
  | _ => []

namespace Visit

/-- Is a visit to a call that is looked at as a possible site? -/
def isCall (settings : Settings) (x : Visit) : Bool :=
  match x.standing with
  | .code place => x.node.kind = .call && (callAt settings place x.node).isPlain
  | _ => false

/-- Only a call directly in a body is more than a call. -/
theorem callAt_ne_plain {settings : Settings} {place : Place} {n : Node} {b : BodyCall}
    (h : callAt settings place n = b) (hb : b.isPlain = false) :
    place = .body ∧ bodyCall settings n = b := by
  unfold callAt at h
  split at h
  · exact ⟨‹_›, h⟩
  · subst h
    cases hb

theorem siteListAll_bareCallOf (n : Node) : Item.siteListAll (bareCallOf n) = [] := by
  unfold bareCallOf
  split
  · split <;> rfl
  · rfl

/-- Only calls add sites. -/
theorem sites_frame (settings : Settings) (x : Visit) :
    (x.frame settings).sites = if x.isCall settings then Site.ofCall settings x.node else [] := by
  obtain ⟨n, standing, v⟩ := x
  cases standing with
  | code place =>
    simp only [frame, step, isCall]
    obtain ⟨kind, hkind⟩ : ∃ kind, n.kind = kind := ⟨_, rfl⟩
    cases kind with
    | call =>
      simp only [codeStep, hkind]
      cases callAt settings place n with
      | plain =>
        have hsites : Item.siteListAll ((Site.ofCall settings n).map .site) =
            Site.ofCall settings n := by
          rw [Item.siteListAll_eq, List.flatMap_map]
          exact List.flatMap_singleton' _
        have hbare := siteListAll_bareCallOf n
        rw [Item.siteListAll_eq] at hsites hbare
        simp [callStep, Frame.sites, BodyCall.isPlain, Item.siteListAll_eq, hsites, hbare]
      | _ => rfl
    | method =>
      simp only [codeStep, hkind]
      cases methodOwner? place v n <;> rfl
    | identifier =>
      simp only [codeStep, hkind, Frame.sites]
      split <;> rfl
    | _ => simp [codeStep, hkind, Frame.sites, Item.siteListAll]
  | _ => rfl

/-- The sites of a visit and those after it. -/
def sites (settings : Settings) (x : Visit) : List Site :=
  Item.siteListAll (x.outline settings)

theorem sites_eq (settings : Settings) (x : Visit) :
    x.sites settings = (x.frame settings).sites ++ (x.next settings).flatMap (sites settings) := by
  have hnext : Item.siteListAll ((x.next settings).flatMap (outline settings)) =
      (x.next settings).flatMap (sites settings) := by
    rw [Item.siteListAll_eq, List.flatMap_assoc]
    simp only [← Item.siteListAll_eq]
    rfl
  rw [sites, outline_eq, ← hnext]
  cases x.frame settings with
  | space s => simp [Frame.wrap, Frame.sites, Item.siteListAll, Item.siteList]
  | owned owner => simp [Frame.wrap, Frame.sites, Item.siteListAll, Item.siteList]
  | after items => simp [Frame.wrap, Frame.sites, Item.siteListAll_eq]

theorem sites_code (settings : Settings) (place : Place) (v : Visibility) (n : Node) :
    sites settings ⟨n, .code place, v⟩ =
      (codeStep settings place v n).1.sites ++
        (codeStep settings place v n).2.flatMap (sites settings) :=
  sites_eq settings ⟨n, .code place, v⟩

/-- Where there are no calls there are no sites. -/
theorem sites_eq_nil (settings : Settings) (x : Visit)
    (h : x.node.everywhere (·.kind ≠ .call) = true) : x.sites settings = [] := by
  induction x using induct settings with
  | h x ih =>
    have hself : x.isCall settings = false := by
      have := Node.everywhere_iff.mp h x.node (Node.Holds.refl _)
      unfold isCall
      split
      · simp_all
      · rfl
    have hnext : (x.next settings).flatMap (sites settings) = [] := by
      rw [List.flatMap_eq_nil_iff]
      intro y hy
      refine ih y hy (Node.everywhere_iff.mpr fun m hm => Node.everywhere_iff.mp h m ?_)
      rcases mem_next hy with hchild | ⟨-, rfl⟩
      · obtain ⟨⟨t, cs⟩, standing, v⟩ := x
        exact Node.Holds.of_child hchild hm
      · exact hm
    rw [sites_eq, sites_frame, hself, hnext]
    rfl

end Visit

end LocaleKeys.Outline

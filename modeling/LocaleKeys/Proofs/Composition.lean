import LocaleKeys.Proofs.Verdicts
import LocaleKeys.Proofs.Walk

/-!
# Proofs: a file is the sequence of its parts

A file can be cut between any two of its top-level nodes: what is before the cut and what is after
it are resolved as if each were a file of its own. The parts share the namespace of the file, and
with it the visibility in force, the methods, the callbacks and the numbers of namespaces. But no
conventions apply to that namespace, so nobody asks who owns the code in it, and the other
namespaces are only numbered anew.
-/

namespace LocaleKeys

open Ast

/-! ## Sites in two indexes -/

namespace Resolve

variable {settings : Settings} {d : Document} {index index' : Index}

/-- The conventions of controllers do not apply to the namespace with a number. -/
def Outside (settings : Settings) (path : String) (index : Index) (here : Nat) : Prop :=
  ∀ c, index.contexts[here]? = some c → applies settings path c = false

/-- Two places of two indexes at which every site has the same verdict: both are outside
controllers, or both are in the same namespace and have the same callers. -/
inductive Alike (settings : Settings) (path : String) (index index' : Index)
    (here here' callbacks callbacks' : Nat) (caller caller' : Option Caller) : Prop where
  /-- Both are outside controllers. -/
  | outside (h : Outside settings path index here) (h' : Outside settings path index' here')
  /-- Both are in the same namespace. -/
  | same (hcontext : index.contexts[here]? = index'.contexts[here']?)
      (hcallbacks : callbacks = callbacks') (hcaller : caller = caller')

theorem relative_of_outside {p : Placed} (h : Outside settings d.path index p.context) (l : Lookup)
    (key : String) : relative settings d index p l key = .ok (l.drop d .outsideController) := by
  rw [relative]
  cases hc : index.contexts[p.context]? with
  | none => rfl
  | some c =>
    have hgraph : graph? settings d.path c = none := by rw [graph?, h c hc]; rfl
    simp only [hgraph]

/-- A site has the same verdict at places that are alike. -/
theorem verdictAt_congr {here here' callbacks callbacks' : Nat} {caller caller' : Option Caller}
    (h : Alike settings d.path index index' here here' callbacks callbacks' caller caller')
    (s : Site) :
    verdictAt settings d index ⟨here, caller, s⟩ =
      verdictAt settings d index' ⟨here', caller', s⟩ := by
  have hrelative : ∀ l key, relative settings d index ⟨here, caller, s⟩ l key =
      relative settings d index' ⟨here', caller', s⟩ l key := by
    intro l key
    cases h with
    | outside h h' => rw [relative_of_outside h, relative_of_outside h']
    | same hcontext _ hcaller =>
      subst hcaller
      simp only [relative, hcontext]
  have hsite : site settings d index ⟨here, caller, s⟩ =
      site settings d index' ⟨here', caller', s⟩ := by
    simp only [site, hrelative]
  rw [verdictAt, verdictAt, hsite]

/-- Code at places that are alike leads to places that are alike, whoever owns it. -/
theorem Alike.owned {here here' callbacks callbacks' : Nat} {caller caller' : Option Caller}
    (h : Alike settings d.path index index' here here' callbacks callbacks' caller caller')
    (owner : Owner) :
    Alike settings d.path index index' here here' (Item.callbacksWithin callbacks owner)
      (Item.callbacksWithin callbacks' owner) (Item.callerOf callbacks owner)
      (Item.callerOf callbacks' owner) := by
  cases h with
  | outside h h' => exact .outside h h'
  | same hcontext hcallbacks _ => exact .same hcontext (by rw [hcallbacks]) (by rw [hcallbacks])

theorem Alike.later {here here' callbacks callbacks' : Nat} {caller caller' : Option Caller}
    (h : Alike settings d.path index index' here here' callbacks callbacks' caller caller')
    (more : Nat) :
    Alike settings d.path index index' here here' (callbacks + more) (callbacks' + more) caller
      caller' := by
  cases h with
  | outside h h' => exact .outside h h'
  | same hcontext hcallbacks hcaller => exact .same hcontext (by rw [hcallbacks]) hcaller

mutual

/-- An item has the same verdicts at places that are alike, if the namespaces in it are the same in
both indexes. -/
theorem map_verdictAt_sites (i : Item) {here here' spaces spaces' callbacks callbacks' : Nat}
    {caller caller' : Option Caller}
    (h : Alike settings d.path index index' here here' callbacks callbacks' caller caller')
    (hspaces : ∀ j < i.spaceCount, index.contexts[spaces + j]? = index'.contexts[spaces' + j]?) :
    (i.sites here spaces callbacks caller).map (verdictAt settings d index) =
      (i.sites here' spaces' callbacks' caller').map (verdictAt settings d index') := by
  match i with
  | .space s body =>
    rw [Item.spaceCount] at hspaces
    refine map_verdictAt_sitesAll body (.same (hspaces 0 (Nat.succ_pos _)) rfl rfl) fun j hj => ?_
    have hinner := hspaces (j + 1) (Nat.succ_lt_succ hj)
    rwa [Nat.add_comm j, ← Nat.add_assoc, ← Nat.add_assoc] at hinner
  | .owned owner body => exact map_verdictAt_sitesAll body (h.owned owner) hspaces
  | .site s => exact congrArg ([·]) (verdictAt_congr h s)
  | .directive .. | .bareCall .. => rfl

/-- Items have the same verdicts at places that are alike, if the namespaces in them are the same in
both indexes. -/
theorem map_verdictAt_sitesAll (is : List Item)
    {here here' spaces spaces' callbacks callbacks' : Nat} {caller caller' : Option Caller}
    (h : Alike settings d.path index index' here here' callbacks callbacks' caller caller')
    (hspaces : ∀ j < Item.spaceCountAll is,
      index.contexts[spaces + j]? = index'.contexts[spaces' + j]?) :
    (Item.sitesAll here spaces callbacks caller is).map (verdictAt settings d index) =
      (Item.sitesAll here' spaces' callbacks' caller' is).map (verdictAt settings d index') := by
  match is with
  | [] => rfl
  | i :: is =>
    rw [Item.spaceCountAll] at hspaces
    have hi := map_verdictAt_sites i h fun j hj => hspaces j (Nat.lt_add_right _ hj)
    have hlater : ∀ j < Item.spaceCountAll is,
        index.contexts[spaces + i.spaceCount + j]? =
          index'.contexts[spaces' + i.spaceCount + j]? := by
      intro j hj
      rw [Nat.add_assoc, Nat.add_assoc]
      exact hspaces _ (Nat.add_lt_add_left hj _)
    have his := map_verdictAt_sitesAll is (h.later i.registrations.length) hlater
    rw [Item.sitesAll, Item.sitesAll, List.map_append, List.map_append, hi, his]

end

end Resolve

/-! ## Code outside namespaces -/

namespace Item

mutual

/-- An item without the owners of the code outside the namespaces in it. -/
def unowned : Item → Item
  | .owned _ body => .owned .nobody (unownedAll body)
  | i => i

/-- Items without the owners of the code outside the namespaces in them. -/
def unownedAll : List Item → List Item
  | [] => []
  | i :: is => i.unowned :: unownedAll is

end

theorem unownedAll_append (xs ys : List Item) :
    unownedAll (xs ++ ys) = unownedAll xs ++ unownedAll ys := by
  induction xs with
  | nil => rfl
  | cons x xs ih => rw [List.cons_append, unownedAll, unownedAll, ih, List.cons_append]

mutual

theorem contexts_unowned (outer : Space) (i : Item) :
    i.unowned.contexts outer = i.contexts outer := by
  match i with
  | .owned owner body => exact contextsAll_unownedAll outer body
  | .space .. | .directive .. | .bareCall .. | .site .. => rfl

theorem contextsAll_unownedAll (outer : Space) (is : List Item) :
    contextsAll outer (unownedAll is) = contextsAll outer is := by
  match is with
  | [] => rfl
  | i :: is =>
    rw [unownedAll, contextsAll, contextsAll, contexts_unowned, contextsAll_unownedAll]

end

theorem spaceCount_unowned (i : Item) : i.unowned.spaceCount = i.spaceCount := by
  rw [← length_contexts Space.root, contexts_unowned, length_contexts]

end Item

namespace Resolve

variable {settings : Settings} {d : Document} {index : Index} {here : Nat}

mutual

theorem map_verdictAt_unowned (h : Outside settings d.path index here) (i : Item)
    (spaces callbacks callbacks' : Nat) (caller caller' : Option Caller) :
    (i.unowned.sites here spaces callbacks caller).map (verdictAt settings d index) =
      (i.sites here spaces callbacks' caller').map (verdictAt settings d index) := by
  match i with
  | .owned owner body => exact map_verdictAt_unownedAll h body _ _ _ _ _
  | .site s =>
    have halike : Alike settings d.path index index here here 0 0 caller caller' := .outside h h
    exact congrArg ([·]) (verdictAt_congr halike s)
  | .space .. | .directive .. | .bareCall .. => rfl

/-- Outside controllers nobody asks who owns the code. -/
theorem map_verdictAt_unownedAll (h : Outside settings d.path index here) (is : List Item)
    (spaces callbacks callbacks' : Nat) (caller caller' : Option Caller) :
    (Item.sitesAll here spaces callbacks caller (Item.unownedAll is)).map
        (verdictAt settings d index) =
      (Item.sitesAll here spaces callbacks' caller' is).map (verdictAt settings d index) := by
  match is with
  | [] => rfl
  | i :: is =>
    rw [Item.unownedAll, Item.sitesAll, Item.sitesAll, List.map_append, List.map_append,
      Item.spaceCount_unowned, map_verdictAt_unowned h i _ _ callbacks' _ caller',
      map_verdictAt_unownedAll h is _ _ (callbacks' + i.registrations.length) _ caller']

end

end Resolve

/-! ## The visibility in force -/

namespace Outline

/-- Two visits to the same node, looked at in the same way, whatever visibility is in force. -/
def Visit.SameSpot (x y : Visit) : Prop := x.node = y.node ∧ x.standing = y.standing

namespace Visit

variable {settings : Settings}

theorem forall₂_each (test : Node → Bool) {enter enter' : Node → Visit}
    (h : ∀ c, SameSpot (enter c) (enter' c)) (cs : List Node) :
    List.Forall₂ SameSpot (each test enter cs) (each test enter' cs) := by
  rw [each, each, List.forall₂_map_left_iff, List.forall₂_map_right_iff]
  exact List.forall₂_same.mpr fun c _ => h c

theorem forall₂_first (test : Node → Bool) {enter enter' : Node → Visit}
    (h : ∀ c, SameSpot (enter c) (enter' c)) (cs : List Node) :
    List.Forall₂ SameSpot (first test enter cs) (first test enter' cs) := by
  rw [first, first]
  cases cs.find? test with
  | none => exact .nil
  | some c => exact .cons (h c) .nil

theorem forall₂_members (place : Place) (test : Node → Bool) (v w : Visibility) (cs : List Node) :
    List.Forall₂ SameSpot (members place test v cs) (members place test w cs) := by
  induction cs generalizing v w with
  | nil => exact .nil
  | cons c cs ih =>
    rw [members, members]
    split
    · exact .cons ⟨rfl, rfl⟩ (ih _ _)
    · exact ih v w

theorem forall₂_refl (xs : List Visit) : List.Forall₂ SameSpot xs xs :=
  List.forall₂_same.mpr fun _ _ => ⟨rfl, rfl⟩

/-- How two visits to the same spot may differ: in the owner of a method, and in the visibility that
is handed on. A class or module hands on none. -/
inductive Differs (settings : Settings) (x y : Visit) : Prop where
  /-- Not at all. -/
  | step (h : x.step settings = y.step settings)
  /-- In the owner and in what is handed on. -/
  | owner (howner : ∃ o o', x.frame settings = .owned o ∧ y.frame settings = .owned o')
      (hnext : List.Forall₂ SameSpot (x.next settings) (y.next settings))
  /-- In what is handed on. -/
  | after (items : List Item) (hx : x.frame settings = .after items)
      (hy : y.frame settings = .after items)
      (hnext : List.Forall₂ SameSpot (x.next settings) (y.next settings))

theorem differs_code (place : Place) (v w : Visibility) (n : Node) :
    Differs settings ⟨n, .code place, v⟩ ⟨n, .code place, w⟩ := by
  have hstep : ∀ u, step settings ⟨n, .code place, u⟩ = codeStep settings place u n := fun _ => rfl
  have hinside : ∀ c, SameSpot (inside v c) (inside w c) := fun _ => ⟨rfl, rfl⟩
  cases hkind : n.kind with
  | call =>
    have hcall : ∀ u, step settings ⟨n, .code place, u⟩ =
        callStep u settings n (callAt settings place n) := by
      intro u
      simp only [hstep, codeStep, hkind]
    cases hbody : callAt settings place n with
    | wrapper u =>
      have hwrapped : ∀ c, SameSpot ⟨c, .wrapped u, v⟩ ⟨c, .wrapped u, w⟩ := fun _ => ⟨rfl, rfl⟩
      rw [hbody] at hcall
      refine .after [] (congrArg Prod.fst (hcall v)) (congrArg Prod.fst (hcall w)) ?_
      rw [next, next, hcall, hcall]
      exact forall₂_first _ hwrapped n.children
    | directive names u => exact .step (by rw [hcall, hcall, hbody]; rfl)
    | callback r => exact .step (by rw [hcall, hcall, hbody]; rfl)
    | plain =>
      rw [hbody] at hcall
      refine .after _ (congrArg Prod.fst (hcall v)) (congrArg Prod.fst (hcall w)) ?_
      rw [next, next, hcall, hcall]
      exact forall₂_each _ hinside n.children
  | method =>
    by_cases hplace : place = .singletonBody
    · exact .step (by simp only [hstep, codeStep, hkind, methodOwner?, if_pos hplace])
    cases hname : n.child? .name with
    | none =>
      exact .step (by
        simp only [hstep, codeStep, hkind, methodOwner?, if_neg hplace, hname, Option.map_none])
    | some name =>
      have hmethod : ∀ u, step settings ⟨n, .code place, u⟩ =
          (.owned (.method ⟨name.text, u, n.line, n.tag.start⟩), ofMethod n.children) := by
        intro u
        simp only [hstep, codeStep, hkind, methodOwner?, if_neg hplace, hname, Option.map_some]
      refine .owner ⟨_, _, congrArg Prod.fst (hmethod v), congrArg Prod.fst (hmethod w)⟩ ?_
      rw [next, next, hmethod, hmethod]
      exact forall₂_refl _
  | assignment | operatorAssignment =>
    have hsides : ∀ u, step settings ⟨n, .code place, u⟩ =
        (.after [], first isTarget (inside u) n.children ++
          first (Node.plays .right) (inside u) n.children) := by
      intro u
      simp only [hstep, codeStep, hkind]
    refine .after [] (congrArg Prod.fst (hsides v)) (congrArg Prod.fst (hsides w)) ?_
    rw [next, next, hsides, hsides]
    exact List.rel_append (forall₂_first _ hinside _) (forall₂_first _ hinside _)
  | classDef | moduleDef | singletonClass | singletonMethod | methodParameters | parameters
  | blockParameters | lambdaParameters | exceptionVariable | comment | identifier =>
    exact .step (by simp only [hstep, codeStep, hkind])
  | _ =>
    have hchildren : ∀ u, step settings ⟨n, .code place, u⟩ =
        (.after [], each Node.isNamed (inside u) n.children) := by
      intro u
      simp only [hstep, codeStep, hkind]
    refine .after [] (congrArg Prod.fst (hchildren v)) (congrArg Prod.fst (hchildren w)) ?_
    rw [next, next, hchildren, hchildren]
    exact forall₂_each _ hinside n.children

theorem SameSpot.differs (settings : Settings) {x y : Visit} (h : SameSpot x y) :
    Differs settings x y := by
  obtain ⟨n, standing, v⟩ := x
  obtain ⟨m, standing', w⟩ := y
  obtain ⟨rfl, rfl⟩ : n = m ∧ standing = standing' := h
  cases standing with
  | code place => exact differs_code place v w n
  | wrapped u =>
    have hwrapped : ∀ c, SameSpot (inside (if c.kind = .method then u else v) c)
        (inside (if c.kind = .method then u else w) c) := fun _ => ⟨rfl, rfl⟩
    exact .after [] rfl rfl (forall₂_each Node.isNamed hwrapped n.children)
  | loose | statements | arguments => exact .step rfl

theorem unownedAll_flatMap {xs ys : List Visit} (h : List.Forall₂ SameSpot xs ys)
    (ih : ∀ x ∈ xs, ∀ y, SameSpot x y →
      Item.unownedAll (x.outline settings) = Item.unownedAll (y.outline settings)) :
    Item.unownedAll (xs.flatMap (outline settings)) =
      Item.unownedAll (ys.flatMap (outline settings)) := by
  induction h with
  | nil => rfl
  | cons hxy _ ihs =>
    rw [List.flatMap_cons, List.flatMap_cons, Item.unownedAll_append, Item.unownedAll_append,
      ih _ List.mem_cons_self _ hxy, ihs fun x hx => ih x (List.mem_cons_of_mem _ hx)]

/-- The visibility in force only changes the owners of code. -/
theorem SameSpot.unownedAll_outline {x y : Visit} (h : SameSpot x y) :
    Item.unownedAll (x.outline settings) = Item.unownedAll (y.outline settings) := by
  induction x using induct settings generalizing y with
  | h x ih =>
    rw [outline_eq settings x, outline_eq settings y]
    cases h.differs settings with
    | step hstep => rw [frame, frame, next, next, hstep]
    | owner howner hnext =>
      obtain ⟨o, o', hx, hy⟩ := howner
      have hinner := unownedAll_flatMap hnext fun z hz w hzw => ih z hz hzw
      simp only [hx, hy, Frame.wrap, Item.unownedAll, Item.unowned, hinner]
    | after items hx hy hnext =>
      have hinner := unownedAll_flatMap hnext fun z hz w hzw => ih z hz hzw
      simp only [hx, hy, Frame.wrap, Item.unownedAll_append, hinner]

end Visit

/-- The visibility in force after some members of a body. -/
def visibilityAfterAll (place : Place) (test : Node → Bool) (v : Visibility) (cs : List Node) :
    Visibility :=
  cs.foldl (fun v c => if test c then visibilityAfter place v c else v) v

theorem memberItems_append (settings : Settings) (place : Place) (test : Node → Bool)
    (v : Visibility) (xs ys : List Node) :
    memberItems settings place test v (xs ++ ys) =
      memberItems settings place test v xs ++
        memberItems settings place test (visibilityAfterAll place test v xs) ys := by
  induction xs generalizing v with
  | nil => rfl
  | cons x xs ih =>
    rw [List.cons_append, memberItems, memberItems, visibilityAfterAll, List.foldl_cons]
    by_cases hx : test x = true
    · rw [if_pos hx, if_pos hx, if_pos hx, ih, List.append_assoc]
      rfl
    · rw [if_neg hx, if_neg hx, if_neg hx, ih]
      rfl

theorem unownedAll_memberItems (settings : Settings) (place : Place) (test : Node → Bool)
    (v w : Visibility) (cs : List Node) :
    Item.unownedAll (memberItems settings place test v cs) =
      Item.unownedAll (memberItems settings place test w cs) := by
  rw [Visit.memberItems_eq, Visit.memberItems_eq]
  exact Visit.unownedAll_flatMap (Visit.forall₂_members place test v w cs)
    fun x _ y hxy => hxy.unownedAll_outline

end Outline

/-! ## Parts of a file -/

namespace Resolve

variable {settings : Settings} {d : Document}

theorem applies_root (settings : Settings) (path : String) (outline : Outline) :
    applies settings path (Context.ofBody Space.root outline) = false := by
  simp [applies, Context.ofBody, Space.root]

/-- No conventions apply to the namespace of a file. -/
theorem outside_root (settings : Settings) (path : String) (outline : Outline) :
    Outside settings path (Index.ofOutline outline) 0 := by
  intro c hc
  obtain rfl : Context.ofBody Space.root outline = c := Option.some.inj hc
  exact applies_root settings path outline

theorem cycle?_ofOutline (settings : Settings) (path : String) (outline : Outline) :
    cycle? settings path (Index.ofOutline outline).contexts =
      cycle? settings path (Item.contextsAll Space.root outline) := by
  have hroot : graph? settings path (Context.ofBody Space.root outline) = none := by
    rw [graph?, applies_root]
    rfl
  rw [cycle?, Index.ofOutline, List.findSome?_cons, hroot]
  rfl

/-- Items whose namespaces stand together in an index have the verdicts there that they have alone,
if the code outside their namespaces is outside controllers. -/
theorem map_verdictAt_part {index : Index} {before after : List Context} {is : List Item}
    (hcontexts : index.contexts = before ++ Item.contextsAll Space.root is ++ after)
    (houtside : Outside settings d.path index 0) (callbacks : Nat) (caller : Option Caller) :
    (Item.sitesAll 0 before.length callbacks caller is).map (verdictAt settings d index) =
      verdicts settings d (Index.ofOutline is) := by
  refine map_verdictAt_sitesAll is (.outside houtside (outside_root settings d.path is)) ?_
  intro j hj
  rw [← Item.length_contextsAll Space.root] at hj
  rw [hcontexts, List.append_assoc, List.getElem?_append_right (Nat.le_add_right _ _),
    Nat.add_sub_cancel_left, List.getElem?_append_left hj, Nat.add_comm]
  rfl

theorem verdicts_unownedAll (is : List Item) :
    verdicts settings d (Index.ofOutline (Item.unownedAll is)) =
      verdicts settings d (Index.ofOutline is) := by
  have hcontexts : (Index.ofOutline (Item.unownedAll is)).contexts =
      [Context.ofBody Space.root (Item.unownedAll is)] ++ Item.contextsAll Space.root is ++ [] := by
    rw [List.append_nil, Index.ofOutline, Item.contextsAll_unownedAll]
    rfl
  have houtside := outside_root settings d.path (Item.unownedAll is)
  rw [← map_verdictAt_part hcontexts houtside 0 none]
  exact map_verdictAt_unownedAll houtside is 1 0 0 none none

/-- The verdicts on the sites of items are those on the first of them and then those on the others.
The others may be given with other owners of the code outside their namespaces. -/
theorem verdicts_append (xs : List Item) {ys ys' : List Item}
    (hys : Item.unownedAll ys' = Item.unownedAll ys) :
    verdicts settings d (Index.ofOutline (xs ++ ys')) =
      verdicts settings d (Index.ofOutline xs) ++ verdicts settings d (Index.ofOutline ys) := by
  have houtside := outside_root settings d.path (xs ++ ys')
  have hxs : (Index.ofOutline (xs ++ ys')).contexts =
      [Context.ofBody Space.root (xs ++ ys')] ++ Item.contextsAll Space.root xs ++
        Item.contextsAll Space.root ys' := by
    rw [Index.ofOutline, Item.contextsAll_append]
    rfl
  have hys' : (Index.ofOutline (xs ++ ys')).contexts =
      (Context.ofBody Space.root (xs ++ ys') :: Item.contextsAll Space.root xs) ++
        Item.contextsAll Space.root ys' ++ [] := by
    rw [hxs, List.append_nil]
    rfl
  have hsites : (Index.ofOutline (xs ++ ys')).sites =
      Item.sitesAll 0 1 0 none xs ++
        Item.sitesAll 0 (1 + Item.spaceCountAll xs) (0 + (Item.registrationsAll xs).length) none
          ys' :=
    Item.sitesAll_append 0 1 0 none xs ys'
  have hlength : 1 + Item.spaceCountAll xs =
      (Context.ofBody Space.root (xs ++ ys') :: Item.contextsAll Space.root xs).length := by
    rw [List.length_cons, Item.length_contextsAll, Nat.add_comm]
  rw [← verdicts_unownedAll ys, ← hys, verdicts_unownedAll, verdicts, hsites, List.map_append,
    hlength, map_verdictAt_part hys' houtside]
  exact congrArg (· ++ _) (map_verdictAt_part hxs houtside 0 none)

/-- The check before the call sites stops at the first part with a cyclic controller. -/
theorem stopped?_append (xs : List Item) {ys ys' : List Item}
    (hys : Item.unownedAll ys' = Item.unownedAll ys) :
    stopped? settings d (Index.ofOutline (xs ++ ys')) =
      (stopped? settings d (Index.ofOutline xs)).or (stopped? settings d (Index.ofOutline ys)) := by
  rw [stopped?, stopped?, stopped?]
  cases settings.mode with
  | plain => rfl
  | conventions =>
    have hcontexts : Item.contextsAll Space.root ys' = Item.contextsAll Space.root ys := by
      rw [← Item.contextsAll_unownedAll, hys, Item.contextsAll_unownedAll]
    simp only [cycle?_ofOutline, Item.contextsAll_append, hcontexts]
    exact List.findSome?_append

theorem outcome_ofOutline_append (xs : List Item) {ys ys' : List Item}
    (hys : Item.unownedAll ys' = Item.unownedAll ys) :
    outcome settings d (Index.ofOutline (xs ++ ys')) =
      match outcome settings d (Index.ofOutline xs), outcome settings d (Index.ofOutline ys) with
      | .error fault, _ => .error fault
      | .ok _, .error fault => .error fault
      | .ok occurrences, .ok more => .ok (occurrences ++ more) := by
  rw [outcome_eq, outcome_eq, outcome_eq, stopped?_append xs hys, verdicts_append xs hys]
  cases stopped? settings d (Index.ofOutline xs) with
  | some methods => rfl
  | none =>
    cases stopped? settings d (Index.ofOutline ys) with
    | some methods => rfl
    | none => simp only [Option.or_none, List.flatMap_append]

/-- A file gives what its first top-level nodes give and then what the others give, and is stopped
by the first of the two parts that is stopped. -/
theorem outcome_append (settings : Settings) (d : Document) (whole front rest : Tag)
    (xs ys : List Node) :
    outcome settings d (Index.ofTree settings ⟨whole, xs ++ ys⟩) =
      match outcome settings d (Index.ofTree settings ⟨front, xs⟩),
        outcome settings d (Index.ofTree settings ⟨rest, ys⟩) with
      | .error fault, _ => .error fault
      | .ok _, .error fault => .error fault
      | .ok occurrences, .ok more => .ok (occurrences ++ more) := by
  have hwhole : Outline.ofTree settings ⟨whole, xs ++ ys⟩ =
      Outline.ofTree settings ⟨front, xs⟩ ++
        Outline.memberItems settings .body Node.isNamed
          (Outline.visibilityAfterAll .body Node.isNamed .pub xs) ys :=
    Outline.memberItems_append settings .body Node.isNamed .pub xs ys
  -- the second part is outlined under the visibility that the first one leaves behind
  have hrest := Outline.unownedAll_memberItems settings .body Node.isNamed
    (Outline.visibilityAfterAll .body Node.isNamed .pub xs) .pub ys
  rw [Index.ofTree, hwhole]
  exact outcome_ofOutline_append _ hrest

end Resolve

end LocaleKeys

import LocaleKeys.Proofs.Composition
import LocaleKeys.Proofs.DocumentOrder
import Mathlib.Data.List.Perm.Basic
import Mathlib.Data.List.Flatten

/-!
# Proofs: the walk position by position

How the walk looks at a node, if at all, can be told from its position alone: from the node around
it, from how that one is looked at, and from the siblings. The call sites of a file are then those
of the calls that are looked at as calls, one position at a time.
-/

namespace LocaleKeys

open Ast Outline

/-! ## Spots -/

namespace Item

mutual

theorem siteList_unowned (i : Item) : i.unowned.siteList = i.siteList := by
  match i with
  | .owned owner body => exact siteListAll_unownedAll body
  | .space .. | .directive .. | .bareCall .. | .site .. => rfl

theorem siteListAll_unownedAll (is : List Item) :
    siteListAll (unownedAll is) = siteListAll is := by
  match is with
  | [] => rfl
  | i :: is =>
    rw [unownedAll, siteListAll, siteListAll, siteList_unowned i, siteListAll_unownedAll is]

end

end Item

namespace Outline

namespace Visit

/-- The node of a visit and how it is looked at. A loose argument is looked at as code. -/
def spot (x : Visit) : Node × Standing :=
  (x.node, if x.standing = .loose then .code .inside else x.standing)

theorem spot_of_ne_loose {x : Visit} (h : x.standing ≠ .loose) : x.spot = (x.node, x.standing) := by
  rw [spot, if_neg h]

theorem spot_inside (v : Visibility) (c : Node) : (inside v c).spot = (c, .code .inside) := rfl

/-- The visibility in force makes no difference for the sites. -/
theorem SameSpot.sites_eq {settings : Settings} {x y : Visit} (h : SameSpot x y) :
    x.sites settings = y.sites settings := by
  have houtline : Item.siteListAll (Item.unownedAll (x.outline settings)) =
      Item.siteListAll (Item.unownedAll (y.outline settings)) :=
    congrArg Item.siteListAll h.unownedAll_outline
  rwa [Item.siteListAll_unownedAll, Item.siteListAll_unownedAll] at houtline

/-- The sites that the walk finds from a spot. -/
def sitesFrom (settings : Settings) (p : Node × Standing) : List Site :=
  sites settings ⟨p.1, p.2, .pub⟩

theorem sites_eq_sitesFrom (settings : Settings) (x : Visit) :
    x.sites settings = sitesFrom settings x.spot := by
  obtain ⟨n, standing, v⟩ := x
  by_cases h : standing = .loose
  · subst h
    rw [sites_eq settings ⟨n, .loose, v⟩]
    exact List.flatMap_singleton _ _
  · rw [spot_of_ne_loose h]
    exact SameSpot.sites_eq ⟨rfl, rfl⟩

end Visit

end Outline

namespace Way

/-! ## From a node to its children -/

/-- The steps to some siblings, in order. -/
def steps (before : List Node) : List Node → List Step
  | [] => []
  | c :: cs => ⟨before, c⟩ :: steps (before ++ [c]) cs

theorem node_mem_of_mem_steps {before cs : List Node} {s : Step} (h : s ∈ steps before cs) :
    s.node ∈ cs := by
  induction cs generalizing before with
  | nil => cases h
  | cons c cs ih =>
    rcases List.mem_cons.mp h with rfl | h
    · exact List.mem_cons_self
    · exact List.mem_cons_of_mem c (ih h)

theorem toNodes_eq (w : Way) (before cs : List Node) :
    toNodes w before cs = (steps before cs).flatMap fun s => toNode w s.before s.node := by
  induction cs generalizing before with
  | nil => rfl
  | cons c cs ih => rw [toNodes, steps, List.flatMap_cons, ih]

/-- Is a child the first one that passes a test? -/
def isFirst (test : Node → Bool) (s : Step) : Bool := test s.node && !s.before.any test

/-- Is a child of an argument list a positional argument? -/
def isPositional (arguments : Node) (s : Step) : Bool :=
  s.node.isNamed &&
    Arguments.isPositional
      (s.before.any fun a => a.isNamed && Arguments.isPositional false a.kind [])
      s.node.kind ((arguments.children.drop (s.before.length + 1)).filter Node.isNamed)

/-- Is a child of an argument list code that a callback is given? It is positional and no name of a
method. -/
def isGivenCode (arguments : Node) (s : Step) : Bool :=
  isPositional arguments s && (s.node.kind = .lambda || s.node.plainText?.isNone)

/-- How a member of a definition with a body of its own is looked at. -/
def enterBody (place : Place) (parent : Node) (s : Step) : Option Standing :=
  if isPart parent s then
    some (if hasBody parent.children && s.node.kind = .bodyStatement then .statements place
      else .code place)
  else none

/-- How a child of a call is looked at. -/
def enterCall (call : Node) (s : Step) : BodyCall → Option Standing
  | .wrapper w => if isFirst (Node.plays .arguments) s then some (.wrapped w) else none
  | .directive .. => none
  | .callback _ =>
    if isFirst (Node.plays .arguments) s then some .arguments
    else if isFirst (blockTest call.children) s then some (.code .inside)
    else none
  | .plain => if isPart call s then some (.code .inside) else none

/-- How a child of some code is looked at. -/
def enterCode (settings : Settings) (place : Place) (parent : Node) (s : Step) : Option Standing :=
  match parent.kind with
  | .classDef | .moduleDef => enterBody .body parent s
  | .singletonClass => enterBody .singletonBody parent s
  | .method =>
    if (place = .singletonBody || (parent.child? .name).isSome) && isPart parent s then
      some (.code .inside)
    else none
  | .call => enterCall parent s (Visit.callAt settings place parent)
  | k => if !isSilent k && isPart parent s then some (.code .inside) else none

/-- How a child of a node that is looked at in some way is looked at itself, if it is. -/
def enter (settings : Settings) (parent : Node) (s : Step) : Standing → Option Standing
  | .code place => enterCode settings place parent s
  | .statements place => if s.node.isNamed then some (.code place) else none
  | .wrapped _ => if s.node.isNamed then some (.code .inside) else none
  | .arguments => if isGivenCode parent s then some (.code .inside) else none
  | .loose => none

/-- How the walk looks at a position, if it does. -/
def standing? (settings : Settings) : Way → Option Standing
  | [] => none
  | [s] => if s.node.isNamed then some (.code .body) else none
  | s :: p :: around => (standing? settings (p :: around)).bind (enter settings p.node s)

/-- Is the node at a position looked at as a call that may be a site? -/
def isLookedAt (settings : Settings) (w : Way) : Bool :=
  match w, standing? settings w with
  | s :: _, some standing => Visit.isCall settings ⟨s.node, standing, .pub⟩
  | _, _ => false

/-- The sites of the call at a position, if it is looked at. -/
def siteAt (settings : Settings) (w : Way) : List Site :=
  match w with
  | [] => []
  | s :: _ => if isLookedAt settings w then Site.ofCall settings s.node else []

/-- Has no child of a node two parts in it that the walk both goes on to? -/
def rolesApart (n : Node) : Bool :=
  n.children.all fun c =>
    !(isTarget c && c.plays .right) && !(c.plays .arguments && blockTest n.children c)

/-! ## The children that are looked at -/

/-- Some siblings that are looked at, with how they are. -/
def chosen (pick : Step → Option Standing) (before cs : List Node) : List (Node × Standing) :=
  (steps before cs).filterMap fun s => (pick s).map (s.node, ·)

theorem chosen_cons (pick : Step → Option Standing) (before : List Node) (c : Node)
    (cs : List Node) :
    chosen pick before (c :: cs) =
      ((pick ⟨before, c⟩).map (c, ·)).toList ++ chosen pick (before ++ [c]) cs := by
  rw [chosen, steps, List.filterMap_cons]
  cases pick ⟨before, c⟩ <;> rfl

section Shapes

open Visit

variable {test : Node → Bool} {enter : Node → Visit} {standing : Node → Standing}

theorem map_spot_each (h : ∀ c, (enter c).spot = (c, standing c)) (before cs : List Node) :
    (each test enter cs).map spot =
      chosen (fun s => if test s.node then some (standing s.node) else none) before cs := by
  induction cs generalizing before with
  | nil => rfl
  | cons c cs ih =>
    rw [each_cons, List.map_append, ih (before ++ [c]), chosen_cons]
    by_cases hc : test c = true <;> simp [hc, h]

theorem map_spot_first (h : ∀ c, (enter c).spot = (c, standing c)) (before cs : List Node) :
    (if before.any test then [] else (first test enter cs).map spot) =
      chosen (fun s => if isFirst test s then some (standing s.node) else none) before cs := by
  induction cs generalizing before with
  | nil =>
    split <;> rfl
  | cons c cs ih =>
    rw [chosen_cons, ← ih (before ++ [c]), first_cons]
    by_cases hbefore : before.any test = true <;> by_cases hc : test c = true <;>
      simp [isFirst, hc, hbefore, h]

theorem map_spot_members (place : Place) (v : Visibility) (before cs : List Node) :
    (members place test v cs).map spot =
      chosen (fun s => if test s.node then some (.code place) else none) before cs := by
  induction cs generalizing before v with
  | nil => rfl
  | cons c cs ih =>
    rw [members, chosen_cons]
    by_cases hc : test c = true
    · rw [if_pos hc, List.map_cons, ih _ (before ++ [c])]
      simp [hc, spot]
    · rw [if_neg hc, ih _ (before ++ [c])]
      simp [hc]

/-- What is positional among other arguments is so alone. -/
theorem isPositional_of_seen {seen : Bool} {k : Kind} {rest : List Node}
    (h : Arguments.isPositional seen k rest = true) : Arguments.isPositional false k [] = true := by
  cases k <;> simp_all [Arguments.isPositional, Arguments.givesOptions]

/-- What is positional only alone is a hash literal after a positional argument. -/
theorem seen_of_not_isPositional {seen : Bool} {k : Kind} {rest : List Node}
    (h : Arguments.isPositional seen k rest = false)
    (hfalse : Arguments.isPositional false k [] = true) : seen = true := by
  cases k <;> simp_all [Arguments.isPositional, Arguments.givesOptions]

theorem map_spot_callbackArguments {arguments : Node} (before cs : List Node)
    (hcs : arguments.children = before ++ cs) :
    (Visit.callbackArguments
        (before.any fun a => a.isNamed && Arguments.isPositional false a.kind []) cs).map spot =
      chosen (fun s => if isGivenCode arguments s then some (.code .inside) else none)
        before cs := by
  induction cs generalizing before with
  | nil => rfl
  | cons c cs ih =>
    have hrest : arguments.children.drop (before.length + 1) = cs := by
      rw [hcs, List.append_cons, List.drop_left' (by simp)]
    have hnext := ih (before ++ [c]) (by rw [hcs, List.append_cons])
    rw [chosen_cons, ← hnext, Visit.callbackArguments, List.any_append]
    generalize hseen : (before.any fun a => a.isNamed && Arguments.isPositional false a.kind []) =
      seen at *
    by_cases hc : (c.isNamed && Arguments.isPositional seen c.kind (cs.filter Node.isNamed)) = true
    · have hnamed := (Bool.and_eq_true_iff.mp hc).1
      have hpositional := isPositional_of_seen (Bool.and_eq_true_iff.mp hc).2
      have hafter : (seen || [c].any fun a => a.isNamed && Arguments.isPositional false a.kind []) =
          true := by
        simp [hnamed, hpositional]
      rw [if_pos hc, List.map_append, hafter]
      congr 1
      simp only [isGivenCode, isPositional, hseen, hrest, hc, Bool.true_and]
      by_cases hlambda : c.kind = .lambda
      · simp [hlambda, spot, inside]
      · cases htext : c.plainText? <;> simp [hlambda, spot]
    · -- a hash literal that gives options adds nothing: one was seen before it
      have hafter : (seen || [c].any fun a => a.isNamed && Arguments.isPositional false a.kind []) =
          seen := by
        cases hnamed : c.isNamed with
        | false => simp [hnamed]
        | true =>
          rw [hnamed, Bool.true_and, Bool.not_eq_true] at hc
          cases hfalse : Arguments.isPositional false c.kind [] with
          | false => simp [hfalse]
          | true => simp [seen_of_not_isPositional hc hfalse]
      rw [if_neg hc, hafter]
      simp [isGivenCode, isPositional, hseen, hrest, hc]

end Shapes

/-- Children chosen for one reason and children chosen for another, if none is chosen for both. -/
theorem perm_chosen_append {p q : Step → Option Standing} {before cs : List Node}
    (h : ∀ s ∈ steps before cs, p s = none ∨ q s = none) :
    (chosen p before cs ++ chosen q before cs).Perm
      (chosen (fun s => (p s).or (q s)) before cs) := by
  simp only [chosen, List.filterMap_eq_flatMap_toList]
  refine (List.flatMap_append_perm _ _ _).trans (List.Perm.of_eq (List.flatMap_congr ?_))
  intro s hs
  rcases h s hs with hnone | hnone <;> simp [hnone]

section Definitions

open Visit

variable {n : Node} (hkind : n.kind = .classDef ∨ n.kind = .moduleDef ∨ n.kind = .method ∨
  n.kind = .singletonMethod ∨ n.kind = .singletonClass)
include hkind

theorem map_spot_ofBody (place : Place) :
    (ofBody place n.children).map spot = chosen (enterBody place n) [] n.children := by
  unfold ofBody
  cases hbody : hasBody n.children with
  | true =>
    have hpick : enterBody place n = fun s =>
        if isFirst (Node.plays .body) s then
          some (if s.node.kind = .bodyStatement then .statements place else .code place)
        else none := by
      funext s
      rw [enterBody, isPart_body hkind hbody, hbody]
      simp only [Bool.true_and, decide_eq_true_eq]
      rfl
    have hspot : ∀ c : Node,
        spot ⟨c, if c.kind = .bodyStatement then .statements place else .code place, .pub⟩ =
          (c, if c.kind = .bodyStatement then .statements place else .code place) := by
      intro c
      split <;> rfl
    rw [hpick]
    exact map_spot_first hspot [] n.children
  | false =>
    have hpick : enterBody place n = fun s =>
        if isStatement s.node then some (.code place) else none := by
      funext s
      rw [enterBody, isPart_statement hkind hbody, hbody]
      rfl
    rw [hpick]
    exact map_spot_members place .pub [] n.children

theorem map_spot_ofMethod :
    (ofMethod n.children).map spot =
      chosen (fun s => if isPart n s then some (.code .inside) else none) [] n.children := by
  unfold ofMethod
  cases hbody : hasBody n.children with
  | true =>
    simp only [isPart_body hkind hbody]
    exact map_spot_first (spot_inside .pub) [] n.children
  | false =>
    simp only [isPart_statement hkind hbody]
    exact map_spot_each (spot_inside .pub) [] n.children

end Definitions

section Steps

open Visit

variable {settings : Settings} {n : Node}

theorem chosen_none (before cs : List Node) : chosen (fun _ => none) before cs = [] :=
  List.filterMap_none _

theorem of_rolesApart (h : rolesApart n = true) {s : Step} (hs : s ∈ steps [] n.children) :
    (isTarget s.node && s.node.plays .right) = false ∧
      (s.node.plays .arguments && blockTest n.children s.node) = false := by
  have hchild := List.all_eq_true.mp h s.node (node_mem_of_mem_steps hs)
  rw [Bool.and_eq_true, Bool.not_eq_true', Bool.not_eq_true'] at hchild
  exact hchild

/-- Two parts of a node that the walk goes on to one after the other: the sides of an assignment, or
the arguments and the block of a call. A test tells which child is which part. -/
inductive IsPair (n : Node) : (Node → Bool) → (Node → Bool) → Prop where
  /-- The sides of an assignment. -/
  | sides (hkind : n.kind = .assignment ∨ n.kind = .operatorAssignment) :
      IsPair n isTarget (Node.plays .right)
  /-- The parts of a call. -/
  | parts (hkind : n.kind = .call) : IsPair n (Node.plays .arguments) (blockTest n.children)

/-- How the children of a node are looked at that come next: in their order, or two parts one after
the other wherever they stand. -/
inductive Chosen (n : Node) (pick : Step → Option Standing) : List (Node × Standing) → Prop where
  /-- In their order. -/
  | inOrder : Chosen n pick (chosen pick [] n.children)
  /-- One part after the other. -/
  | inParts {p q : Node → Bool} (standing standing' : Standing) (hpair : IsPair n p q)
      (hpick : ∀ s, pick s = (if isFirst p s then some standing else none).or
        (if isFirst q s then some standing' else none)) :
      Chosen n pick (chosen (fun s => if isFirst p s then some standing else none) [] n.children ++
        chosen (fun s => if isFirst q s then some standing' else none) [] n.children)

theorem Chosen.of_eq {pick : Step → Option Standing} {spots : List (Node × Standing)}
    (h : spots = chosen pick [] n.children) : Chosen n pick spots :=
  h ▸ .inOrder

/-- The first child that passes one test, and then the first that passes another. -/
theorem Chosen.two {p q : Node → Bool} {enter enter' : Node → Visit} {standing standing' : Standing}
    (hpair : IsPair n p q) (h : ∀ c, (enter c).spot = (c, standing))
    (h' : ∀ c, (enter' c).spot = (c, standing')) :
    Chosen n (fun s =>
        if isFirst p s then some standing else if isFirst q s then some standing' else none)
      ((first p enter n.children ++ first q enter' n.children).map spot) := by
  have happend : (first p enter n.children ++ first q enter' n.children).map spot =
      chosen (fun s => if isFirst p s then some standing else none) [] n.children ++
        chosen (fun s => if isFirst q s then some standing' else none) [] n.children := by
    rw [← map_spot_first h, ← map_spot_first h']
    exact List.map_append
  rw [happend]
  refine .inParts standing standing' hpair fun s => ?_
  split <;> rfl

theorem chosen_callStep (hkind : n.kind = .call) (v : Visibility) (b : BodyCall) :
    Chosen n (fun s => enterCall n s b) ((callStep v settings n b).2.map spot) := by
  cases b with
  | wrapper w =>
    have hspot : ∀ c, spot ⟨c, .wrapped w, v⟩ = (c, .wrapped w) := fun _ => rfl
    exact .of_eq (map_spot_first hspot [] n.children)
  | directive names w => exact .of_eq (chosen_none [] n.children).symm
  | callback r =>
    have hspot : ∀ c, spot ⟨c, .arguments, .pub⟩ = (c, .arguments) := fun _ => rfl
    exact .two (.parts hkind) hspot (spot_inside .pub)
  | plain =>
    simp only [enterCall, isPart, hkind]
    exact .of_eq (map_spot_each (spot_inside v) [] n.children)

theorem isSome_methodOwner? (place : Place) (v : Visibility) (n : Node) :
    (methodOwner? place v n).isSome =
      (decide (place = .singletonBody) || (n.child? .name).isSome) := by
  unfold methodOwner?
  by_cases hplace : place = .singletonBody
  · rw [if_pos hplace, decide_eq_true hplace]
    rfl
  · rw [if_neg hplace, decide_eq_false hplace, Option.isSome_map, Bool.false_or]

theorem chosen_codeStep (place : Place) (v : Visibility) :
    Chosen n (enterCode settings place n) ((codeStep settings place v n).2.map spot) := by
  cases hkind : n.kind with
  | call =>
    have hpick : enterCode settings place n = fun s => enterCall n s (callAt settings place n) := by
      funext s
      simp only [enterCode, hkind]
    rw [hpick]
    simp only [codeStep, hkind]
    exact chosen_callStep hkind v _
  | classDef | moduleDef =>
    have hpick : enterCode settings place n = enterBody .body n := by
      funext s
      simp only [enterCode, hkind]
    rw [hpick]
    simp only [codeStep, hkind]
    exact .of_eq (map_spot_ofBody (by simp [hkind]) _)
  | singletonClass =>
    have hpick : enterCode settings place n = enterBody .singletonBody n := by
      funext s
      simp only [enterCode, hkind]
    rw [hpick]
    simp only [codeStep, hkind]
    exact .of_eq (map_spot_ofBody (by simp [hkind]) _)
  | singletonMethod =>
    have hpick : enterCode settings place n = fun s =>
        if isPart n s then some (.code .inside) else none := by
      funext s
      simp only [enterCode, hkind]
      rfl
    rw [hpick]
    simp only [codeStep, hkind]
    exact .of_eq (map_spot_ofMethod (by simp [hkind]))
  | method =>
    have hpick : enterCode settings place n = fun s =>
        if (methodOwner? place v n).isSome && isPart n s then some (.code .inside) else none := by
      funext s
      simp only [enterCode, hkind, isSome_methodOwner?]
    rw [hpick]
    simp only [codeStep, hkind]
    cases methodOwner? place v n with
    | none => exact .of_eq (chosen_none [] n.children).symm
    | some owner => exact .of_eq (map_spot_ofMethod (by simp [hkind]))
  | assignment | operatorAssignment =>
    have hpick : enterCode settings place n = fun s =>
        if isFirst isTarget s then some (.code .inside)
        else if isFirst (Node.plays .right) s then some (.code .inside)
        else none := by
      funext s
      have hsides : enterCode settings place n s =
          if isFirst isTarget s || isFirst (Node.plays .right) s then some (.code .inside)
          else none := by
        simp only [enterCode, hkind, isPart]
        rfl
      rw [hsides]
      cases isFirst isTarget s <;> rfl
    rw [hpick]
    simp only [codeStep, hkind]
    exact .two (.sides (by simp [hkind])) (spot_inside v) (spot_inside v)
  | identifier | methodParameters | parameters | blockParameters | lambdaParameters
  | exceptionVariable | comment =>
    have hpick : enterCode settings place n = fun _ => none := by
      funext s
      simp only [enterCode, hkind, isPart]
      rfl
    rw [hpick]
    simp only [codeStep, hkind]
    exact .of_eq (chosen_none [] n.children).symm
  | _ =>
    have hpick : enterCode settings place n = fun s =>
        if s.node.isNamed then some (.code .inside) else none := by
      funext s
      simp only [enterCode, hkind, isPart]
      rfl
    rw [hpick]
    simp only [codeStep, hkind]
    exact .of_eq (map_spot_each (spot_inside v) [] n.children)

/-- The visits after a visit go to the children that are looked at, and look at them so. -/
theorem chosen_next (settings : Settings) (x : Visit) (hloose : x.standing ≠ .loose) :
    Chosen x.node (fun s => enter settings x.node s x.standing) ((x.next settings).map spot) := by
  obtain ⟨n, standing, v⟩ := x
  cases standing with
  | code place => exact chosen_codeStep place v
  | statements place => exact .of_eq (map_spot_members place .pub [] n.children)
  | wrapped w =>
    have hspot : ∀ c : Node, (inside (if c.kind = .method then w else v) c).spot =
        (c, .code .inside) := fun _ => rfl
    exact .of_eq (map_spot_each hspot [] n.children)
  | arguments => exact .of_eq (map_spot_callbackArguments [] n.children rfl)
  | loose => exact absurd rfl hloose

theorem pick_first_eq_none {test : Node → Bool} {s : Step} {standing : Standing}
    (h : test s.node = false) : (if isFirst test s then some standing else none) = none := by
  rw [isFirst, h]
  rfl

/-- Where no child is both parts, it makes no difference to what is looked at that one part comes
after the other. -/
theorem Chosen.perm {pick : Step → Option Standing} {spots : List (Node × Standing)}
    (h : Chosen n pick spots) (hroles : rolesApart n = true) :
    spots.Perm (chosen pick [] n.children) := by
  cases h with
  | inOrder => exact .refl _
  | @inParts p q standing standing' hpair hpick =>
    have hapart : ∀ s ∈ steps [] n.children, (p s.node && q s.node) = false := by
      intro s hs
      cases hpair with
      | sides _ => exact (of_rolesApart hroles hs).1
      | parts _ => exact (of_rolesApart hroles hs).2
    rw [funext hpick]
    refine perm_chosen_append fun s hs => ?_
    exact (Bool.and_eq_false_iff.mp (hapart s hs)).imp pick_first_eq_none pick_first_eq_none

end Steps

/-! ## Every position -/

variable {settings : Settings}

theorem enter_ne_loose (n : Node) (s : Step) (standing : Standing) :
    enter settings n s standing ≠ some .loose := by
  cases standing with
  | code place =>
    have hcall : ∀ b, enterCall n s b ≠ some .loose := by
      intro b
      cases b <;> grind [enterCall]
    grind [enter, enterCode, enterBody]
  | loose => simp [enter]
  | statements | wrapped | arguments => grind [enter]

theorem standing?_ne_loose (w : Way) : standing? settings w ≠ some .loose := by
  cases w with
  | nil => simp [standing?]
  | cons s around =>
    cases around with
    | nil =>
      rw [standing?]
      split <;> simp
    | cons p around =>
      rw [standing?]
      intro h
      obtain ⟨standing, -, henter⟩ := Option.bind_eq_some_iff.mp h
      exact enter_ne_loose p.node s standing henter

/-- Nothing is looked at below what is not looked at. -/
theorem standing?_append_eq_none {w : Way} (hw : w ≠ []) (h : standing? settings w = none)
    (inner : Way) : standing? settings (inner ++ w) = none := by
  induction inner with
  | nil => exact h
  | cons s inner ih =>
    cases hinner : inner ++ w with
    | nil => exact absurd (List.append_eq_nil_iff.mp hinner).2 hw
    | cons p around =>
      rw [List.cons_append, hinner, standing?, ← hinner, ih]
      rfl

theorem siteAt_eq_nil {w : Way} (h : standing? settings w = none) : siteAt settings w = [] := by
  cases w with
  | nil => rfl
  | cons s around => simp [siteAt, isLookedAt, h]

theorem siteAt_cons {s : Step} {around : Way} {standing : Standing}
    (h : standing? settings (s :: around) = some standing) (v : Visibility) :
    siteAt settings (s :: around) = (Visit.frame settings ⟨s.node, standing, v⟩).sites := by
  rw [Visit.sites_frame, siteAt]
  simp only [isLookedAt, h]
  rfl

theorem flatMap_sites_eq (settings : Settings) (xs : List Visit) :
    xs.flatMap (Visit.sites settings) =
      (xs.map Visit.spot).flatMap (Visit.sitesFrom settings) := by
  rw [List.flatMap_map]
  exact List.flatMap_congr fun x _ => Visit.sites_eq_sitesFrom settings x

/-- Siblings of which each that is looked at gives the sites below its position. -/
theorem perm_sites_toNodes {around : Way} {cs : List Node} {pick : Step → Option Standing}
    (hpick : ∀ s, standing? settings (s :: around) = pick s)
    (hfound : ∀ s ∈ steps [] cs, ∀ standing, pick s = some standing →
      (Visit.sitesFrom settings (s.node, standing)).Perm
        ((toNode around s.before s.node).flatMap (siteAt settings))) :
    ((chosen pick [] cs).flatMap (Visit.sitesFrom settings)).Perm
      ((toNodes around [] cs).flatMap (siteAt settings)) := by
  rw [chosen, List.filterMap_eq_flatMap_toList, List.flatMap_assoc, toNodes_eq, List.flatMap_assoc]
  refine List.Perm.flatMap_left _ fun s hs => ?_
  cases hs' : pick s with
  | none =>
    have hnone : (toNode around s.before s.node).flatMap (siteAt settings) = [] := by
      rw [List.flatMap_eq_nil_iff]
      intro w hw
      obtain ⟨inner, rfl⟩ := exists_of_mem_toNode hw
      exact siteAt_eq_nil (standing?_append_eq_none (by simp) ((hpick s).trans hs') inner)
    rw [hnone]
    exact .nil
  | some standing =>
    rw [Option.map_some, Option.toList_some, List.flatMap_singleton]
    exact hfound s hs standing hs'

/-- What the walk finds from a position on are the sites of the calls that are looked at there. -/
theorem perm_sites_toNode (n : Node) (hroles : n.everywhere rolesApart = true) (around : Way)
    (before : List Node) {standing : Standing}
    (h : standing? settings (⟨before, n⟩ :: around) = some standing) (v : Visibility) :
    (Visit.sites settings ⟨n, standing, v⟩).Perm
      ((toNode around before n).flatMap (siteAt settings)) := by
  induction n using Node.induct generalizing around before standing v with
  | h t cs ih =>
    have hloose : standing ≠ .loose := by
      rintro rfl
      exact standing?_ne_loose _ h
    have hpick : ∀ s, standing? settings (s :: ⟨before, ⟨t, cs⟩⟩ :: around) =
        enter settings ⟨t, cs⟩ s standing := by
      intro s
      rw [standing?, h]
      rfl
    rw [Visit.sites_eq, flatMap_sites_eq, toNode, List.flatMap_cons, siteAt_cons h v]
    refine List.Perm.append_left _ ?_
    have hnext := (chosen_next settings ⟨⟨t, cs⟩, standing, v⟩ hloose).perm
      (Node.everywhere_self hroles)
    refine (hnext.flatMap_right _).trans ?_
    refine perm_sites_toNodes hpick fun s hs standing' henter => ?_
    have hs' : s.node ∈ cs := node_mem_of_mem_steps hs
    exact ih s.node hs' (Node.everywhere_child hroles hs') _ s.before ((hpick s).trans henter) .pub

/-- The call sites of a file are those of the calls that are looked at, position by position. -/
theorem perm_sites (settings : Settings) {root : Node}
    (hroles : root.everywhere rolesApart = true) :
    ((Index.ofTree settings root).sites.map (·.site)).Perm
      ((Way.all root).flatMap (siteAt settings)) := by
  have hsites : (Index.ofTree settings root).sites.map (·.site) =
      (Visit.members .body Node.isNamed .pub root.children).flatMap (Visit.sites settings) := by
    rw [Index.ofTree, Index.ofOutline, Item.map_site_sitesAll, Visit.ofTree_eq, ← Visit.sites,
      Visit.sites_eq, Visit.sites_frame]
    rfl
  rw [hsites, flatMap_sites_eq, map_spot_members .body .pub []]
  refine perm_sites_toNodes (fun s => rfl) fun s hs standing hpick => ?_
  have hroles' := Node.everywhere_child hroles (node_mem_of_mem_steps hs)
  exact perm_sites_toNode s.node hroles' [] s.before hpick .pub

end Way

end LocaleKeys

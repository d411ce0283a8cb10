import LocaleKeys.Proofs.DocumentOrder
import LocaleKeys.Proofs.WellFormedIndex
import Mathlib.Data.List.Flatten

/-!
# Proofs: the definitions of a namespace

A namespace has one method for each name: the last definition of this name that the walk comes to.
The walk comes to definitions in document order, as long as the parts of assignments and of calls
stand in their usual order.
-/

namespace LocaleKeys

open Ast

/-! ## The last definition of each name -/

namespace Context

/-- The definitions that no later one of the same name replaces. -/
def latest : List MethodDef → List MethodDef
  | [] => []
  | d :: ds => if ds.any (·.name = d.name) then latest ds else d :: latest ds

/-- Definitions that are added to methods replace those of their names. -/
theorem foldl_addMethod (definitions methods : List MethodDef) :
    definitions.foldl addMethod methods =
      methods.filter (fun m => !definitions.any (·.name = m.name)) ++ latest definitions := by
  induction definitions generalizing methods with
  | nil => simp [latest]
  | cons d definitions ih =>
    have hold : (methods.filter (·.name ≠ d.name)).filter
          (fun m => !definitions.any (·.name = m.name)) =
        methods.filter fun m => !(d :: definitions).any (·.name = m.name) := by
      rw [List.filter_filter]
      refine List.filter_congr fun m _ => ?_
      rw [List.any_cons, Bool.not_or, Bool.and_comm]
      simp [eq_comm]
    rw [List.foldl_cons, ih, addMethod, List.filter_append, hold, List.append_assoc, latest]
    by_cases hlater : definitions.any (·.name = d.name) = true <;> simp [hlater]

end Context

namespace Outline

/-! ## Definitions along the walk -/

namespace Trail

/-- The method that is defined at the end of a trail. -/
def defined? (u : Trail) : Option MethodDef := u.head?.bind (·.2.method?)

/-- The trails of the walk from a namespace on. -/
def inside (settings : Settings) (root : Node) : Trail → List Trail
  | [] => walk settings root
  | (number, x) :: around => through settings around number x

/-- The trails to the definitions in a namespace: those for which it is the innermost one. -/
def definitionsIn (settings : Settings) (root : Node) (t : Trail) : List Trail :=
  (inside settings root t).filter fun u => (space u.tail).way = t.way ∧ u.defined?.isSome

/-- The method that is defined at the end of a trail, if that lies in a namespace. -/
def definedIn? (t u : Trail) : Option MethodDef :=
  if (space u.tail).way = t.way then u.defined? else none

theorem filterMap_definitionsIn (settings : Settings) (root : Node) (t : Trail) :
    (definitionsIn settings root t).filterMap defined? =
      (inside settings root t).filterMap (definedIn? t) := by
  rw [definitionsIn, List.filterMap_filter]
  refine List.filterMap_congr fun u _ => ?_
  rw [definedIn?]
  by_cases hway : (space u.tail).way = t.way
  · cases hu : u.defined? <;> simp [hway]
  · simp [hway]

/-- The innermost class or module around a place lies behind every other one on the way to it. -/
theorem suffix_space (number : Nat) {x : Visit} (hopens : x.opens = true) (inner around : Trail) :
    (number, x) :: around <:+ space (inner ++ (number, x) :: around) := by
  induction inner with
  | nil => exact ⟨[], (space_of_opens hopens).symm⟩
  | cons v inner ih =>
    rw [List.cons_append]
    cases hv : v.2.opens with
    | true =>
      rw [space_of_opens hv]
      exact ⟨v :: inner, rfl⟩
    | false =>
      rw [space_of_not_opens hv]
      exact ih

/-- Behind a class or module nothing lies in the namespace around it. -/
theorem definedIn?_of_opens {settings : Settings} {number i : Nat} {x y : Visit}
    {around u : Trail} (hopens : x.opens = true)
    (hu : u ∈ through settings ((number, x) :: around) i y) :
    definedIn? (space around) u = none := by
  obtain ⟨inner, rfl⟩ := exists_of_mem_through hu
  obtain ⟨inner', htail⟩ : ∃ inner', (inner ++ (i, y) :: (number, x) :: around).tail =
      inner' ++ (number, x) :: around := by
    cases inner with
    | nil => exact ⟨[], rfl⟩
    | cons v inner => exact ⟨inner ++ [(i, y)], by simp⟩
  have hlonger : (space around).length < (space (inner' ++ (number, x) :: around)).length := by
    have hspace : (space around).length ≤ around.length :=
      (List.dropWhile_suffix _).length_le
    have hlength := (suffix_space number hopens inner' around).length_le
    rw [List.length_cons] at hlength
    omega
  rw [definedIn?, htail, if_neg]
  intro hway
  have hlength := congrArg List.length hway
  rw [way, way, List.length_map, List.length_map] at hlength
  omega

/-- What a visit and those after it define in the namespace around it. -/
theorem definitionsAll_through (settings : Settings) (around : Trail) (number : Nat) (x : Visit) :
    Item.definitionsAll (x.outline settings) =
      (through settings around number x).filterMap (definedIn? (space around)) := by
  induction x using Visit.induct settings generalizing around number with
  | h x ih =>
    have hself : definedIn? (space around) ((number, x) :: around) = x.method? := if_pos rfl
    rw [through_eq, List.filterMap_cons, hself, List.filterMap_flatMap]
    cases hopens : x.opens with
    | true =>
      have hnext : ((x.next settings).zipIdx.flatMap fun y =>
          (through settings ((number, x) :: around) y.2 y.1).filterMap
            (definedIn? (space around))) = [] := by
        rw [List.flatMap_eq_nil_iff]
        intro y _
        rw [List.filterMap_eq_nil_iff]
        exact fun u hu => definedIn?_of_opens hopens hu
      rw [Visit.method?_of_opens hopens, hnext, Visit.definitionsAll_of_opens hopens]
    | false =>
      have hnext : ((x.next settings).flatMap fun y => Item.definitionsAll (y.outline settings)) =
          (x.next settings).zipIdx.flatMap fun y =>
            (through settings ((number, x) :: around) y.2 y.1).filterMap
              (definedIn? (space around)) := by
        have hspace : space ((number, x) :: around) = space around := space_of_not_opens hopens
        rw [← flatMap_zipIdx, ← hspace]
        exact List.flatMap_congr fun y hy => ih y.1 (List.fst_mem_of_mem_zipIdx hy) _ _
      rw [Visit.definitionsAll_outline hopens, hnext]
      cases x.method? <;> rfl

/-- The definitions of a body are those that the walk finds in its namespace, in this order. -/
theorem definitionsAll_body {settings : Settings} {root : Node} {t : Trail}
    (h : t ∈ spaces settings root) :
    Item.definitionsAll (body settings root t) =
      (definitionsIn settings root t).filterMap defined? := by
  rw [filterMap_definitionsIn]
  rcases List.mem_cons.mp h with rfl | h
  · exact definitionsAll_through settings [] 0 (.file root)
  · obtain ⟨hwalk, hopening⟩ := List.mem_filter.mp h
    cases t with
    | nil => cases hopening
    | cons v around =>
      obtain ⟨number, x⟩ := v
      have hopens : x.opens = true := hopening
      have hself : definedIn? ((number, x) :: around) ((number, x) :: around) = none := by
        rw [definedIn?]
        split
        · exact Visit.method?_of_opens hopens
        · rfl
      have hspace : space ((number, x) :: around) = (number, x) :: around := space_of_opens hopens
      rw [inside, through_eq, List.filterMap_cons, hself, List.filterMap_flatMap, body,
        Visit.definitionsAll_flatMap, ← flatMap_zipIdx]
      refine List.flatMap_congr fun y _ => ?_
      rw [definitionsAll_through settings ((number, x) :: around) y.2, hspace]

/-- The methods of a namespace are the last definitions in it. -/
theorem methods_context {settings : Settings} {root : Node} {t : Trail}
    (h : t ∈ spaces settings root) :
    (context settings root t).methods =
      (Context.latest ((definitionsIn settings root t).filterMap defined?)).map
        (Context.directed (Item.directives (body settings root t))) := by
  rw [context_eq, ← definitionsAll_body h]
  show ((Item.definitionsAll _).foldl Context.addMethod []).map _ = _
  rw [Context.foldl_addMethod]
  rfl

/-- A definition in a namespace has it for its innermost one. -/
theorem space_of_mem_definitionsIn {settings : Settings} {root : Node} {t u : Trail}
    (h : u ∈ definitionsIn settings root t) : space u.tail = t := by
  obtain ⟨hu, hcond⟩ := List.mem_filter.mp h
  obtain ⟨hway, -⟩ := of_decide_eq_true hcond
  have hlength : (space u.tail).length = t.length := by
    have hlength := congrArg List.length hway
    rwa [way, way, List.length_map, List.length_map] at hlength
  have hspace : space u.tail <:+ u := (List.dropWhile_suffix _).trans (List.tail_suffix u)
  have ht : t <:+ u := by
    cases t with
    | nil => exact List.nil_suffix
    | cons v around =>
      obtain ⟨inner, rfl⟩ := exists_of_mem_through hu
      exact List.suffix_append _ _
  exact (List.suffix_of_suffix_length_le hspace ht hlength.le).eq_of_length hlength

/-- The trail to a definition in a namespace is one of the walk. -/
theorem reached_of_mem_definitionsIn {settings : Settings} {root : Node} {t u : Trail}
    (ht : t ∈ spaces settings root) (h : u ∈ definitionsIn settings root t) :
    Reached settings root u := by
  have hu : u ∈ inside settings root t := (List.mem_filter.mp h).1
  rcases List.mem_cons.mp ht with rfl | ht
  · exact .of_mem_walk hu
  · cases t with
    | nil => exact .of_mem_walk hu
    | cons v around => exact (Reached.of_mem_walk (List.mem_filter.mp ht).1).of_mem_through hu

end Trail

end Outline

/-! ## Document order -/

namespace Ast.Node

mutual

/-- A node and all nodes below it, each before those below it. -/
def inOrder : Node → List Node
  | ⟨t, cs⟩ => ⟨t, cs⟩ :: inOrderAll cs

/-- Some nodes and all nodes below them. -/
def inOrderAll : List Node → List Node
  | [] => []
  | c :: cs => c.inOrder ++ inOrderAll cs

end

theorem inOrderAll_eq (cs : List Node) : inOrderAll cs = cs.flatMap inOrder := by
  induction cs with
  | nil => rfl
  | cons c cs ih => rw [inOrderAll, ih, List.flatMap_cons]

theorem inOrder_eq (n : Node) : n.inOrder = n :: n.children.flatMap inOrder := by
  obtain ⟨t, cs⟩ := n
  rw [inOrder, inOrderAll_eq]
  rfl

/-- In an assignment the left side comes before the right side, and in a call the arguments come
before the block. -/
structure Ordered (n : Node) : Prop where
  /-- The sides of an assignment. -/
  sides : n.kind = .assignment ∨ n.kind = .operatorAssignment → Way.LeftFirst n.children
  /-- The parts of a call: none is both, and no arguments follow a block. -/
  parts : n.kind = .call →
    (∀ c ∈ n.children, c.plays .arguments = true → Outline.blockTest n.children c = false) ∧
      n.children.Pairwise fun c d =>
        Outline.blockTest n.children c = true → d.plays .arguments = false

instance (n : Node) : Decidable n.Ordered :=
  decidable_of_iff
    ((n.kind = .assignment ∨ n.kind = .operatorAssignment → Way.LeftFirst n.children) ∧
      (n.kind = .call →
        (∀ c ∈ n.children, c.plays .arguments = true → Outline.blockTest n.children c = false) ∧
          n.children.Pairwise fun c d =>
            Outline.blockTest n.children c = true → d.plays .arguments = false))
    ⟨fun h => ⟨h.1, h.2⟩, fun h => ⟨h.sides, h.parts⟩⟩

end Ast.Node

namespace Outline

/-- Two things that are found in a list stand in it in this order, if no other order is possible. -/
theorem find?_append_find?_sublist {α : Type} {p q : α → Bool} {cs : List α}
    (hnone : ∀ c ∈ cs, p c = true → q c = false)
    (horder : cs.Pairwise fun c d => q c = true → p d = false) :
    ((cs.find? p).toList ++ (cs.find? q).toList).Sublist cs := by
  induction cs with
  | nil => exact .slnil
  | cons c cs ih =>
    obtain ⟨hc, hcs⟩ := List.pairwise_cons.mp horder
    obtain ⟨hnonec, hnones⟩ := List.forall_mem_cons.mp hnone
    rw [List.find?_cons, List.find?_cons]
    cases hp : p c with
    | true =>
      rw [hnonec hp]
      refine List.Sublist.cons_cons c ?_
      cases hq : cs.find? q with
      | none => exact List.nil_sublist _
      | some d => exact List.singleton_sublist.mpr (List.mem_of_find?_eq_some hq)
    | false =>
      cases hq : q c with
      | true =>
        have hnot : cs.find? p = none := by
          rw [List.find?_eq_none]
          intro d hd
          rw [hc d hd hq]
          simp
        rw [hnot]
        exact List.Sublist.cons_cons c (List.nil_sublist cs)
      | false => exact (ih hnones hcs).cons c

namespace Visit

theorem map_node_each {test : Node → Bool} {enter : Node → Visit} (cs : List Node)
    (henter : ∀ c, (enter c).node = c) : (each test enter cs).map (·.node) = cs.filter test := by
  rw [each, List.map_map]
  exact List.map_id'' henter _

theorem map_node_first {test : Node → Bool} {enter : Node → Visit} (cs : List Node)
    (henter : ∀ c, (enter c).node = c) :
    (first test enter cs).map (·.node) = (cs.find? test).toList := by
  rw [first]
  cases cs.find? test with
  | none => rfl
  | some c => simp [henter]

theorem map_node_members (place : Place) (test : Node → Bool) (v : Visibility) (cs : List Node) :
    (members place test v cs).map (·.node) = cs.filter test := by
  induction cs generalizing v with
  | nil => rfl
  | cons c cs ih =>
    rw [members, List.filter_cons]
    by_cases hc : test c = true
    · rw [if_pos hc, if_pos hc, List.map_cons, ih]
    · rw [if_neg hc, if_neg hc, ih]

theorem sublist_first {test : Node → Bool} {enter : Node → Visit} (cs : List Node)
    (henter : ∀ c, (enter c).node = c) : ((first test enter cs).map (·.node)).Sublist cs := by
  rw [map_node_first cs henter]
  cases h : cs.find? test with
  | none => exact List.nil_sublist _
  | some c => exact List.singleton_sublist.mpr (List.mem_of_find?_eq_some h)

theorem sublist_each {test : Node → Bool} {enter : Node → Visit} (cs : List Node)
    (henter : ∀ c, (enter c).node = c) : ((each test enter cs).map (·.node)).Sublist cs := by
  rw [map_node_each cs henter]
  exact List.filter_sublist

theorem sublist_ofBody (place : Place) (cs : List Node) :
    ((ofBody place cs).map (·.node)).Sublist cs := by
  rw [ofBody]
  split
  · exact sublist_first cs fun _ => rfl
  · rw [map_node_members]
    exact List.filter_sublist

theorem sublist_ofMethod (cs : List Node) : ((ofMethod cs).map (·.node)).Sublist cs := by
  rw [ofMethod]
  split
  · exact sublist_first cs fun _ => rfl
  · exact sublist_each cs fun _ => rfl

theorem sublist_callbackArguments (seen : Bool) (cs : List Node) :
    ((callbackArguments seen cs).map (·.node)).Sublist cs := by
  induction cs generalizing seen with
  | nil => exact .slnil
  | cons c cs ih =>
    rw [callbackArguments]
    split
    · split
      · exact (ih true).cons_cons c
      · split
        · exact (ih true).cons c
        · exact (ih true).cons_cons c
    · exact (ih seen).cons c

theorem sublist_callStep {settings : Settings} {v : Visibility} {n : Node} (hkind : n.kind = .call)
    (hordered : n.Ordered) (b : BodyCall) :
    ((callStep v settings n b).2.map (·.node)).Sublist n.children := by
  cases b with
  | wrapper w => exact sublist_first n.children fun _ => rfl
  | directive names w => exact List.nil_sublist _
  | callback r =>
    obtain ⟨hnone, horder⟩ := hordered.parts hkind
    rw [callStep, List.map_append, map_node_first _ fun _ => rfl, map_node_first _ fun _ => rfl]
    exact find?_append_find?_sublist hnone horder
  | plain => exact sublist_each n.children fun _ => rfl

theorem sublist_sides {v : Visibility} {cs : List Node} (h : Way.LeftFirst cs) :
    ((first isTarget (inside v) cs ++ first (Node.plays .right) (inside v) cs).map
      (·.node)).Sublist cs := by
  have hleft : ∀ {c : Node}, isTarget c = true → c.plays .left = true := by
    intro c hc
    simp only [isTarget, Bool.and_eq_true] at hc
    exact hc.1.1
  rw [List.map_append, map_node_first _ fun _ => rfl, map_node_first _ fun _ => rfl]
  refine find?_append_find?_sublist (fun c hc htarget => h.1 c hc (hleft htarget)) ?_
  refine h.2.imp fun {c d} hright hc => ?_
  by_contra htarget
  have hd := hright hc
  rw [hleft (Bool.not_eq_false _ ▸ htarget)] at hd
  cases hd

/-- The walk goes on to children in their order. -/
theorem sublist_next (settings : Settings) {x : Visit} (hx : x.standing ≠ .loose)
    (hordered : x.node.Ordered) : ((x.next settings).map (·.node)).Sublist x.node.children := by
  obtain ⟨n, standing, v⟩ := x
  cases standing with
  | code place =>
    simp only [next, step]
    cases hkind : n.kind with
    | call =>
      simp only [codeStep, hkind]
      exact sublist_callStep hkind hordered _
    | classDef | moduleDef | singletonClass =>
      simp only [codeStep, hkind]
      exact sublist_ofBody _ n.children
    | singletonMethod =>
      simp only [codeStep, hkind]
      exact sublist_ofMethod n.children
    | method =>
      simp only [codeStep, hkind]
      cases methodOwner? place v n with
      | none => exact List.nil_sublist _
      | some owner => exact sublist_ofMethod n.children
    | assignment | operatorAssignment =>
      simp only [codeStep, hkind]
      exact sublist_sides (hordered.sides (by simp [hkind]))
    | identifier | methodParameters | parameters | blockParameters | lambdaParameters
    | exceptionVariable | comment =>
      simp only [codeStep, hkind]
      exact List.nil_sublist _
    | _ =>
      simp only [codeStep, hkind]
      exact sublist_each n.children fun _ => rfl
  | loose => exact absurd rfl hx
  | statements place =>
    simp only [next, step, map_node_members]
    exact List.filter_sublist
  | wrapped w => exact sublist_each n.children fun _ => rfl
  | arguments => exact sublist_callbackArguments false n.children

end Visit

namespace Trail

/-- The nodes at the ends of trails. -/
def nodes (us : List Trail) : List Node := us.filterMap fun u => u.head?.map (·.2.node)

/-- The node that opens a namespace. -/
def opening (root : Node) : Trail → Node
  | [] => root
  | (_, x) :: _ => x.node

/-- The walk comes to the definitions of methods in document order. -/
theorem nodes_through_sublist {settings : Settings} (around : Trail) (number : Nat) {x : Visit}
    (h : ∀ n, x.node.Holds n → n.Ordered) :
    (nodes ((through settings around number x).filter (·.defined?.isSome))).Sublist
      x.node.inOrder := by
  induction x using Visit.induct settings generalizing around number with
  | h x ih =>
    have hbelow : (nodes (((x.next settings).zipIdx.flatMap fun y =>
        through settings ((number, x) :: around) y.2 y.1).filter (·.defined?.isSome))).Sublist
          ((x.next settings).flatMap fun y => y.node.inOrder) := by
      rw [nodes, List.filter_flatMap, List.filterMap_flatMap, ← flatMap_zipIdx (x.next settings)]
      refine List.Sublist.flatMap_right _ fun y hy => ?_
      have hmem : y.1 ∈ x.next settings := List.fst_mem_of_mem_zipIdx hy
      refine ih y.1 hmem _ _ fun n hn => h n ?_
      rcases Visit.mem_next hmem with hchild | ⟨-, hsame⟩
      · obtain ⟨⟨t, cs⟩, standing, v⟩ := x
        exact Node.Holds.of_child hchild hn
      · rw [hsame] at hn
        exact hn
    rw [through_eq, List.filter_cons]
    by_cases hloose : x.standing = .loose
    · -- A loose argument is looked at once more, as code.
      have hnext : x.next settings = [.inside .pub x.node] := by
        obtain ⟨n, standing, v⟩ := x
        cases hloose
        rfl
      have hmethod : defined? ((number, x) :: around) = none :=
        Visit.method?_eq_none settings (by simp [Visit.frame_loose hloose])
      rw [hmethod, Option.isSome_none, if_neg (by simp)]
      refine hbelow.trans ?_
      rw [hnext]
      simp [Visit.inside]
    · have hnext : ((x.next settings).flatMap fun y => y.node.inOrder).Sublist
          (x.node.children.flatMap Node.inOrder) := by
        have hmap := (Visit.sublist_next settings hloose
          (h x.node (Node.Holds.refl _))).flatMap Node.inOrder
        rwa [List.flatMap_map] at hmap
      rw [Node.inOrder_eq]
      split
      · exact (hbelow.trans hnext).cons_cons x.node
      · exact (hbelow.trans hnext).cons x.node

theorem nodes_definitionsIn_sublist {settings : Settings} {root : Node} {t : Trail}
    (ht : t ∈ spaces settings root) (h : ∀ n, root.Holds n → n.Ordered) :
    (nodes (definitionsIn settings root t)).Sublist (opening root t).inOrder := by
  have hfilter : (definitionsIn settings root t).Sublist
      ((inside settings root t).filter (·.defined?.isSome)) := by
    have heq : definitionsIn settings root t =
        ((inside settings root t).filter (·.defined?.isSome)).filter
          fun u => (space u.tail).way = t.way := by
      rw [List.filter_filter, definitionsIn]
      refine List.filter_congr fun u _ => ?_
      simp
    rw [heq]
    exact List.filter_sublist
  refine (hfilter.filterMap _).trans ?_
  cases t with
  | nil => exact nodes_through_sublist [] 0 h
  | cons v around =>
    rcases List.mem_cons.mp ht with ht | ht
    · cases ht
    · have hreached := Reached.of_mem_walk (List.mem_filter.mp ht).1
      have hholds : root.Holds v.2.node := hreached.holds v List.mem_cons_self
      exact nodes_through_sublist around v.1 fun n hn => h n (hholds.trans hn)

end Trail

end Outline

end LocaleKeys

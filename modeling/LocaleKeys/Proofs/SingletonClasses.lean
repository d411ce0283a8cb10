import LocaleKeys.Proofs.CallGraph
import LocaleKeys.Proofs.Visibility

/-!
# Proofs: methods of an object's own class

A method that is a member of an object's own class belongs to this object, and no namespace has it.
The walk tells this from the place of the definition alone, so it holds of the members themselves
and not of what lies inside a member: a definition there goes to the namespace around the class.
Where the members hold no further definitions, no method of an object's own is ever taken for an
action.
-/

namespace LocaleKeys

open Ast

theorem Context.latest_sublist (definitions : List MethodDef) :
    (latest definitions).Sublist definitions := by
  induction definitions with
  | nil => exact .slnil
  | cons d definitions ih =>
    rw [latest]
    split
    · exact ih.cons d
    · exact ih.cons_cons d

namespace Outline

/-! ## Definitions below a node -/

mutual

/-- Is a node the definition of a method, or does one lie below it outside of classes and
modules? -/
def definesMethod : Node → Bool
  | ⟨t, cs⟩ => t.kind = .method || !Way.isSpace ⟨t, cs⟩ && definesMethodAny cs

/-- Is there such a definition among some nodes or below them? -/
def definesMethodAny : List Node → Bool
  | [] => false
  | c :: cs => definesMethod c || definesMethodAny cs

end

/-- Does an object's own class hold definitions of methods inside the members of its body? One that
stands in place of the arguments of a call is not looked at as a class, and counts too. -/
def sharesMethods (n : Node) : Bool :=
  n.kind = .singletonClass &&
    (n.plays .arguments || (membersOf n).any fun c => !Way.isSpace c && definesMethodAny c.children)

theorem definesMethod_of_kind {n : Node} (h : n.kind = .method) : definesMethod n = true := by
  obtain ⟨t, cs⟩ := n
  have hkind : t.kind = .method := h
  rw [definesMethod, hkind]
  rfl

theorem definesMethodAny_of_mem {cs : List Node} {c : Node} (hc : c ∈ cs)
    (h : definesMethod c = true) : definesMethodAny cs = true := by
  induction cs with
  | nil => cases hc
  | cons d cs ih =>
    rw [definesMethodAny, Bool.or_eq_true]
    rcases List.mem_cons.mp hc with rfl | hc
    · exact .inl h
    · exact .inr (ih hc)

theorem definesMethod_of_children {n : Node} (hspace : Way.isSpace n = false)
    (h : definesMethodAny n.children = true) : definesMethod n = true := by
  obtain ⟨t, cs⟩ := n
  have hcs : definesMethodAny cs = true := h
  rw [definesMethod, hspace, hcs, Bool.not_false, Bool.and_self, Bool.or_true]

theorem sharesMethods_of_member {s c : Node} (hs : s.kind = .singletonClass)
    (hc : c ∈ membersOf s) (hspace : Way.isSpace c = false)
    (h : definesMethodAny c.children = true) : sharesMethods s = true := by
  have hany : ((membersOf s).any fun c => !Way.isSpace c && definesMethodAny c.children) = true :=
    List.any_eq_true.mpr ⟨c, hc, by rw [hspace, h]; rfl⟩
  rw [sharesMethods, hs, hany, Bool.or_true]
  rfl

theorem sharesMethods_of_arguments {s : Node} (hs : s.kind = .singletonClass)
    (h : s.plays .arguments = true) : sharesMethods s = true := by
  rw [sharesMethods, hs, h]
  rfl

/-! ## Members of an object's own class -/

namespace Visit

variable {settings : Settings} {x y : Visit}

theorem kind_of_isSingletonClass (h : x.isSingletonClass = true) :
    x.node.kind = .singletonClass :=
  of_decide_eq_true (Bool.and_eq_true_iff.mp h).2

theorem next_of_isSingletonClass (h : x.isSingletonClass = true) :
    x.next settings = ofBody .singletonBody x.node.children := by
  have hkind := kind_of_isSingletonClass h
  obtain ⟨n, standing, v⟩ := x
  cases standing with
  | code place => simp only [next, step, codeStep, show n.kind = .singletonClass from hkind]
  | _ => cases h

/-- From an object's own class the walk goes to a member of it, or to its statements, which are the
members. -/
theorem of_mem_next_singletonClass (hx : x.isSingletonClass = true) (h : y ∈ x.next settings) :
    y.standing = .code .singletonBody ∧ y.node ∈ membersOf x.node ∨
      y.standing = .statements .singletonBody ∧ membersOf x.node = y.node.named := by
  rw [next_of_isSingletonClass hx] at h
  rcases Trail.ofBody_cases .singletonBody x.node with
    ⟨b, hbody, hkind, hnext⟩ | ⟨b, hone, hnext⟩ | ⟨hall, hnext⟩
  · rw [hnext] at h
    rw [List.mem_singleton.mp h]
    exact .inr ⟨rfl, Trail.membersOf_of_body hbody hkind⟩
  · rw [hnext] at h
    rw [List.mem_singleton.mp h, hone]
    exact .inl ⟨rfl, List.mem_singleton_self b⟩
  · rw [hnext] at h
    refine .inl ⟨standing_of_mem_members h, ?_⟩
    rw [hall, ← map_node_members .singletonBody isStatement .pub]
    exact List.mem_map_of_mem h

theorem node_mem_named_of_statements {place : Place} (hx : x.standing = .statements place)
    (h : y ∈ x.next settings) : y.standing = .code place ∧ y.node ∈ x.node.named := by
  obtain ⟨n, standing, v⟩ := x
  cases hx
  refine ⟨standing_of_mem_members h, ?_⟩
  rw [Node.named, ← map_node_members place Node.isNamed .pub]
  exact List.mem_map_of_mem h

theorem isSpace_of_not_opens (hx : x.isCode = true) (h : x.opens = false) :
    Way.isSpace x.node = false := by
  obtain ⟨n, standing, v⟩ := x
  cases standing with
  | code place => exact h
  | _ => cases hx

end Visit

namespace Trail

variable {settings : Settings} {root : Node}

/-- The visits between the end of a trail and the innermost class or module around it, or the
file. -/
def between (u : Trail) : Trail := u.tail.dropLast.takeWhile fun v => !v.2.opens

/-- Does an object's own class lie between the end of a trail and its namespace? -/
def inOwnClass (u : Trail) : Bool := u.between.any (·.2.node.kind = .singletonClass)

/-- A name belongs to a method that is defined in a namespace outside of an object's own class. -/
def DefinedOutside (settings : Settings) (root : Node) (t : Trail) (name : String) : Prop :=
  ∃ u ∈ definitionsIn settings root t, ∃ m, u.defined? = some m ∧ m.name = name ∧
    u.inOwnClass = false

/-- A member of an object's own class lies in it. -/
theorem Reached.exists_own_class {v : Nat × Visit} {around : Trail}
    (h : Reached settings root (v :: around)) (hv : v.2.standing = .code .singletonBody) :
    ∃ s ∈ around, s.2.isSingletonClass = true ∧ v.2.node ∈ membersOf s.2.node := by
  cases h with
  | file => cases hv
  | @next number i x y rest hx hi =>
    have hmem : y ∈ x.next settings := List.mem_of_getElem? hi
    rcases (Visit.follows_of_mem_next hmem).of_code_singletonBody hv with hclass | hstatements
    · rcases Visit.of_mem_next_singletonClass hclass hmem with ⟨-, hmember⟩ | ⟨hy, -⟩
      · exact ⟨(number, x), List.mem_cons_self, hclass, hmember⟩
      · rw [hv] at hy
        cases hy
    · -- The statements of the body are between the class and its members.
      obtain ⟨-, hnamed⟩ := Visit.node_mem_named_of_statements hstatements hmem
      cases hx with
      | file => cases hstatements
      | @next k j z _ rest' hz hj =>
        have hmem' : x ∈ z.next settings := List.mem_of_getElem? hj
        rcases (Visit.follows_of_mem_next hmem').of_statements hstatements with
          ⟨-, hplace⟩ | ⟨hclass, -⟩
        · cases hplace
        · rcases Visit.of_mem_next_singletonClass hclass hmem' with ⟨hx, -⟩ | ⟨-, hmembers⟩
          · rw [hstatements] at hx
            cases hx
          · refine ⟨(k, z), List.mem_cons_of_mem _ List.mem_cons_self, hclass, ?_⟩
            rw [hmembers]
            exact hnamed

/-- Code that is no member of an object's own class around it lies inside a member of it. -/
theorem Reached.exists_member_between {v s : Nat × Visit} {inner outer : Trail}
    (h : Reached settings root (v :: (inner ++ s :: outer))) (hs : s.2.isSingletonClass = true)
    (hmember : v.2.standing ≠ .code .singletonBody)
    (hstatements : v.2.standing ≠ .statements .singletonBody) :
    ∃ w ∈ inner, w.2.node ∈ membersOf s.2.node := by
  have hstep : ∀ {a b : Nat × Visit} {rest : Trail}, Reached settings root (a :: b :: rest) →
      a.2 ∈ b.2.next settings := by
    intro a b rest h
    cases h with
    | next _ hi => exact List.mem_of_getElem? hi
  -- the first visit after the class is a member, or the statements, which the members follow
  rcases inner.eq_nil_or_concat' with rfl | ⟨inner', z, rfl⟩
  · rcases Visit.of_mem_next_singletonClass hs (hstep h) with ⟨hv, -⟩ | ⟨hv, -⟩
    · exact absurd hv hmember
    · exact absurd hv hstatements
  · rw [List.append_assoc, List.singleton_append, ← List.cons_append] at h
    rcases Visit.of_mem_next_singletonClass hs (hstep h.of_append) with ⟨-, hz⟩ | ⟨hz, hmembers⟩
    · exact ⟨z, by simp, hz⟩
    · rcases inner'.eq_nil_or_concat' with rfl | ⟨inner'', w, rfl⟩
      · exact absurd (Visit.node_mem_named_of_statements hz (hstep h)).1 hmember
      · rw [← List.cons_append, List.append_assoc, List.singleton_append] at h
        have hw := (Visit.node_mem_named_of_statements hz (hstep h.of_append)).2
        refine ⟨w, by simp, ?_⟩
        rw [hmembers]
        exact hw

theorem mem_between_cons {v w x : Nat × Visit} {rest : Trail}
    (h : v ∈ between (w :: x :: rest)) :
    rest ≠ [] ∧ x.2.opens = false ∧ (v = x ∨ v ∈ between (x :: rest)) := by
  rw [between, List.tail_cons] at h
  cases rest with
  | nil => cases h
  | cons z rest =>
    rw [List.dropLast_cons_cons, List.takeWhile_cons] at h
    split at h
    · rename_i hopens
      refine ⟨List.cons_ne_nil _ _, by simpa using hopens, ?_⟩
      rcases List.mem_cons.mp h with rfl | h
      · exact .inl rfl
      · exact .inr h
    · cases h

/-- An object's own class that the walk goes through, and not to a member of it, stands in place of
arguments. -/
theorem plays_arguments_of_passed {z x y : Visit} (hx : x ∈ z.next settings)
    (hy : y ∈ x.next settings) (hkind : x.node.kind = .singletonClass)
    (hmember : y.standing ≠ .code .singletonBody)
    (hstatements : y.standing ≠ .statements .singletonBody)
    (hinside : y.standing = .code .inside → y.node.kind ≠ .singletonClass) :
    x.node.plays .arguments = true := by
  have hdefinition : Visit.isDefinition x.node = true := by simp [Visit.isDefinition, hkind]
  rcases (Visit.follows_of_mem_next hx).of_isDefinition hdefinition with
    hdefines | hloose | hplays
  · have hcode : x.isCode = true := by
      by_contra hcode
      rw [Visit.defines_eq_false (Bool.eq_false_iff.mpr hcode)] at hdefines
      cases hdefines
    have hclass : x.isSingletonClass = true := by simp [Visit.isSingletonClass, hcode, hkind]
    rcases Visit.of_mem_next_singletonClass hclass hy with ⟨h, -⟩ | ⟨h, -⟩
    · exact absurd h hmember
    · exact absurd h hstatements
  · -- it is looked at once more, as code
    obtain ⟨n, standing, v⟩ := x
    cases hloose
    rw [List.mem_singleton.mp hy] at hinside
    exact absurd hkind (hinside rfl)
  · exact hplays

/-- Where an object's own class lies between a definition and its namespace, one such class holds
definitions inside its members. -/
theorem Reached.exists_sharesMethods {u : Trail} (h : Reached settings root u) :
    ∀ v around, u = v :: around → v.2.standing ≠ .code .singletonBody →
      v.2.standing ≠ .statements .singletonBody →
      (v.2.standing = .code .inside →
        v.2.node.kind ≠ .singletonClass ∧ definesMethod v.2.node = true) →
      u.inOwnClass = true → ∃ s, root.Holds s ∧ sharesMethods s = true := by
  induction h with
  | file =>
    rintro v around ⟨⟩ - - - hown
    cases hown
  | @next number i x y around hx hy ih =>
    rintro v around' ⟨⟩ hmember hstatements hinside hown
    have hmem : y ∈ x.next settings := List.mem_of_getElem? hy
    have hholds : root.Holds x.node := hx.holds _ List.mem_cons_self
    obtain ⟨s, hs, hkind⟩ := List.any_eq_true.mp hown
    obtain ⟨hne, hopens, hself | hrest⟩ := mem_between_cons hs
    · have hkind' : x.node.kind = .singletonClass := by
        rw [hself] at hkind
        exact of_decide_eq_true hkind
      cases hx with
      | file => exact absurd rfl hne
      | next _ hj =>
        have hplays := plays_arguments_of_passed (List.mem_of_getElem? hj) hmem hkind' hmember
          hstatements fun hy => (hinside hy).1
        exact ⟨x.node, hholds, sharesMethods_of_arguments hkind' hplays⟩
    · have hown' : inOwnClass ((number, x) :: around) = true :=
        List.any_eq_true.mpr ⟨s, hrest, hkind⟩
      -- only code inside other code has to be followed up to a member
      have houter : x.standing ≠ .code .singletonBody → x.standing ≠ .statements .singletonBody →
          x.standing ≠ .code .inside → ∃ s, root.Holds s ∧ sharesMethods s = true :=
        fun hcode hbody hnot => ih _ _ rfl hcode hbody (fun h => absurd h hnot) hown'
      cases Visit.follows_of_mem_next hmem with
      | inside hcode _ hsingleton hy' =>
        have hchild : y.node ∈ x.node.children := by
          rcases Visit.mem_next hmem with hchild | ⟨hloose, -⟩
          · exact hchild
          · simp [Visit.isCode, hloose] at hcode
        have hany : definesMethodAny x.node.children = true :=
          definesMethodAny_of_mem hchild (hinside hy').2
        have hspace : Way.isSpace x.node = false := Visit.isSpace_of_not_opens hcode hopens
        by_cases hx' : x.standing = .code .singletonBody
        · obtain ⟨c, hc, hclass, hmembers⟩ := hx.exists_own_class hx'
          exact ⟨c.2.node, hx.holds c (List.mem_cons_of_mem _ hc),
            sharesMethods_of_member (Visit.kind_of_isSingletonClass hclass) hmembers hspace hany⟩
        · refine ih _ _ rfl hx' ?_ (fun _ => ⟨?_, definesMethod_of_children hspace hany⟩) hown'
          · intro (hbody : x.standing = .statements .singletonBody)
            simp [Visit.isCode, hbody] at hcode
          · intro hclass
            simp [Visit.isSingletonClass, hcode, hclass] at hsingleton
      | body hopens' =>
        rw [hopens] at hopens'
        cases hopens'
      | singletonBody _ hy' =>
        rcases hy' with hy' | ⟨hy', -⟩
        · exact absurd hy' hmember
        · exact absurd hy' hstatements
      | statement place hx' hy' =>
        refine houter (by simp [hx']) (fun hbody => hmember ?_) (by simp [hx'])
        rw [hx'] at hbody
        cases hbody
        exact hy'
      | wrapped hx' => exact houter (by simp [hx']) (by simp [hx']) (by simp [hx'])
      | arguments r hr =>
        have hx' := (Visit.of_registration? hr).1
        exact houter (by simp [hx']) (by simp [hx']) (by simp [hx'])
      | wrappedArgument _ hx' | lambda hx' | argument hx' | loose hx' =>
        exact houter (by simp [hx']) (by simp [hx']) (by simp [hx'])

/-! ## Methods and actions -/

/-- What is defined at the end of a trail is code, and no member of an object's own class. -/
theorem of_mem_definitionsIn {t u : Trail} (h : u ∈ definitionsIn settings root t) :
    ∃ v around m, u = v :: around ∧ u.defined? = some m ∧ v.2.node.kind = .method ∧
      v.2.standing ≠ .code .singletonBody ∧ v.2.standing ≠ .statements .singletonBody := by
  obtain ⟨-, hsome⟩ := of_decide_eq_true (List.mem_filter.mp h).2
  obtain ⟨m, hm⟩ := Option.isSome_iff_exists.mp hsome
  obtain ⟨v, hv, hmethod⟩ := Option.bind_eq_some_iff.mp hm
  obtain ⟨around, rfl⟩ := List.head?_eq_some_iff.mp hv
  obtain ⟨hdefines, hkind, hmember, -⟩ := Visit.method?_eq_some_iff.mp hmethod
  refine ⟨v, around, m, rfl, hm, hkind, hmember, fun hstatements => ?_⟩
  rw [Visit.defines_eq_false (by simp [Visit.isCode, hstatements])] at hdefines
  cases hdefines

theorem inOwnClass_eq_false {t u : Trail} (hown : ∀ n, root.Holds n → sharesMethods n = false)
    (ht : t ∈ spaces settings root) (h : u ∈ definitionsIn settings root t) :
    u.inOwnClass = false := by
  obtain ⟨v, around, m, rfl, -, hkind, hmember, hstatements⟩ := of_mem_definitionsIn h
  rw [Bool.eq_false_iff]
  intro hinOwn
  obtain ⟨s, hs, hshares⟩ := (reached_of_mem_definitionsIn ht h).exists_sharesMethods v around rfl
    hmember hstatements (fun _ => ⟨by simp [hkind], definesMethod_of_kind hkind⟩) hinOwn
  rw [hown s hs] at hshares
  cases hshares

/-- A public method is one that is defined outside of an object's own class, if all are. -/
theorem definedOutside_of_isPublic {t : Trail} (ht : t ∈ spaces settings root)
    (hout : ∀ u ∈ definitionsIn settings root t, u.inOwnClass = false) {a : String}
    (h : (context settings root t).IsPublic a) : DefinedOutside settings root t a := by
  obtain ⟨m, hm, rfl, -⟩ := h
  rw [methods_settled ht] at hm
  obtain ⟨d, hd, rfl⟩ := List.mem_map.mp hm
  obtain ⟨u, hu, hdefined⟩ := List.mem_filterMap.mp ((Context.latest_sublist _).subset hd)
  exact ⟨u, hu, d, hdefined, rfl, hout u hu⟩

/-- An action for which a callback runs is public, unless the callback is limited to actions. -/
theorem isPublic_of_allows {c : Context} {r : Registration} {a : String} (h : c.Allows r a)
    (honly : r.only = none) : c.IsPublic a := by
  rw [Context.Allows, honly] at h
  exact h.1

/-- An action that reaches a method is public, or a callback is limited to actions that it is one
of. -/
theorem isPublic_of_mem_roots {c : Context} {name a : String} {found : List String}
    (h : (CallGraph.ofContext c).roots name = .ok found) (ha : a ∈ found) :
    c.IsPublic a ∨ ∃ r ∈ c.callbacks, ∃ only, r.only = some only ∧
      ∃ names, only.names? = some names ∧ a ∈ names := by
  rcases CallGraph.roots_spec c name with ⟨cycle, herror, -⟩ | ⟨found', hok, -, hfound⟩
  · rw [herror] at h
    cases h
  · rw [hok] at h
    cases h
    obtain ⟨q, -, hq⟩ := (hfound a).mp ha
    rcases CallGraph.mem_ownActions.mp hq with ⟨-, hpublic⟩ | ⟨number, r, hr, -, hallows⟩
    · exact .inl hpublic
    · cases honly : r.only with
      | none => exact .inl (isPublic_of_allows hallows honly)
      | some only =>
        rw [Context.Allows, honly] at hallows
        exact .inr ⟨r, List.mem_of_getElem? hr, only, honly, hallows⟩

/-- **Methods of an object's own class.** No namespace has a method that is a member of an object's
own class. Where these classes hold no definitions inside their members, no namespace has a method
that is defined in such a class at all, and an action is a method that is defined outside of them,
unless a callback is limited to actions and lists it. -/
theorem own_methods_apart (settings : Settings) (root : Node) :
    List.Forall₂ (fun t c =>
      -- the methods of a namespace are the last ones of their names among these definitions
      c.methods = (Context.latest ((definitionsIn settings root t).filterMap defined?)).map
          (settled (members root t)) ∧
      -- around which it is the innermost namespace; one in an object's own class is no member of it
      -- but lies inside a member
      (∀ u ∈ definitionsIn settings root t, space u.tail = t ∧ u.IsChain Nested ∧
        ∀ inner s outer, u.tail = inner ++ s :: outer → s.2.isSingletonClass = true →
          ∃ w ∈ inner, w.2.node ∈ membersOf s.2.node) ∧
      ((∀ n, root.Holds n → sharesMethods n = false) →
        (∀ u ∈ definitionsIn settings root t, ∀ v ∈ u.between,
          v.2.node.kind ≠ .singletonClass) ∧
        (∀ r, r.only = none → ∀ a ∈ (CallGraph.ofContext c).actions r,
          DefinedOutside settings root t a) ∧
        ∀ name found, (CallGraph.ofContext c).roots name = .ok found → ∀ a ∈ found,
          DefinedOutside settings root t a ∨
            ∃ r ∈ c.callbacks, ∃ only, r.only = some only ∧
              ∃ names, only.names? = some names ∧ a ∈ names))
      (spaces settings root) (Index.ofTree settings root).contexts := by
  rw [contexts_ofTree, List.forall₂_map_right_iff, List.forall₂_same]
  intro t ht
  refine ⟨methods_settled ht, fun u hu => ?_, fun hown => ?_⟩
  · have hreached := reached_of_mem_definitionsIn ht hu
    refine ⟨space_of_mem_definitionsIn hu, hreached.isChain, fun inner s outer htail hs => ?_⟩
    obtain ⟨v, around, m, rfl, -, -, hmember, hstatements⟩ := of_mem_definitionsIn hu
    rw [show around = inner ++ s :: outer from htail] at hreached
    exact hreached.exists_member_between hs hmember hstatements
  · have hout : ∀ u ∈ definitionsIn settings root t, u.inOwnClass = false :=
      fun u hu => inOwnClass_eq_false hown ht hu
    refine ⟨fun u hu v hv hkind => ?_, fun r honly a ha => ?_, fun name found hfound a ha => ?_⟩
    · have hnone := List.any_eq_false.mp (hout u hu) v hv
      exact hnone (decide_eq_true hkind)
    · exact definedOutside_of_isPublic ht hout
        (isPublic_of_allows (CallGraph.mem_actions.mp ha) honly)
    · exact (isPublic_of_mem_roots hfound ha).imp_left (definedOutside_of_isPublic ht hout)

/-- An object's own class with its members. -/
def ownClassOf (members : List Node) : Node :=
  ⟨{ kind := .singletonClass },
    [⟨{ kind := .identifier, roles := [.value], text := "self" }, []⟩,
      ⟨{ kind := .bodyStatement, roles := [.body] }, members⟩]⟩

/-- A controller with an action, and with a method of its own of which the action has the name. -/
def twoBuilders : Node :=
  Scan.controllerOf [ownClassOf [Scan.actionOf "build" [], Scan.actionOf "load" []],
    Scan.actionOf "build" []]

theorem own_methods_apart_builders :
    (∀ n, twoBuilders.Holds n → sharesMethods n = false) ∧
      (Index.ofTree {} twoBuilders).contexts.map (·.methods.map (·.name)) = [[], ["build"]] ∧
      List.Forall₂ (fun t c => ∀ r, r.only = none → ∀ a ∈ (CallGraph.ofContext c).actions r,
        DefinedOutside {} twoBuilders t a)
        (spaces {} twoBuilders) (Index.ofTree {} twoBuilders).contexts := by
  have hown : ∀ n, twoBuilders.Holds n → sharesMethods n = false := by
    intro n hn
    have htest : twoBuilders.everywhere (fun n => !sharesMethods n) = true := by decide +kernel
    have hn' := Node.everywhere_iff.mp htest n hn
    rwa [Bool.not_eq_true'] at hn'
  refine ⟨hown, by decide +kernel, ?_⟩
  exact (own_methods_apart {} twoBuilders).imp fun t c h => (h.2.2 hown).2.1

/-- A call around a definition in an object's own class makes it a public method of the class, and
an action that reaches itself. -/
theorem wrapped_own_method_is_action :
    let root := Scan.controllerOf [ownClassOf [Scan.callOf "private" 3 [Scan.actionOf "build" []]]]
    let always : Registration := ⟨"before_action", 1, [], true, none, none⟩
    (Index.ofTree {} root).contexts.map (·.methods.map fun m => (m.name, m.visibility)) =
        [[], [("build", .pub)]] ∧
      (Index.ofTree {} root).contexts.map (fun c => (CallGraph.ofContext c).actions always) =
        [[], ["build"]] ∧
      (Index.ofTree {} root).contexts.map (fun c => (CallGraph.ofContext c).roots "build") =
        [.ok [], .ok ["build"]] := by
  decide +kernel

end Trail

end Outline

end LocaleKeys

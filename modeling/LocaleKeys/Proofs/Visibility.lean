import LocaleKeys.Proofs.Definitions
import LocaleKeys.Proofs.Directives
import LocaleKeys.Proofs.PlainMode

/-!
# Proofs: who may call a method

The visibility of a method, told from the members of the body in which it is defined. The walk hands
a visibility down, resets it on the way, and overrides it in the end; here it is read off the nodes:
from the calls that name the method, the definitions and calls around it, and the bare words before
it.
-/

namespace LocaleKeys

open Ast

namespace Outline

namespace Visit

/-! ## What a step hands down -/

theorem visibility_of_mem_each {test : Node → Bool} {v : Visibility} {cs : List Node} {y : Visit}
    (h : y ∈ each test (inside v) cs) : y.visibility = v := by
  obtain ⟨c, -, rfl⟩ := List.mem_map.mp h
  rfl

theorem visibility_of_mem_first {test : Node → Bool} {v : Visibility} {cs : List Node} {y : Visit}
    (h : y ∈ first test (inside v) cs) : y.visibility = v := by
  obtain ⟨c, -, rfl⟩ := Option.map_eq_some_iff.mp (Option.mem_toList.mp h)
  rfl

theorem visibility_of_mem_ofMethod {cs : List Node} {y : Visit} (h : y ∈ ofMethod cs) :
    y.visibility = .pub := by
  unfold ofMethod at h
  split at h
  · exact visibility_of_mem_first h
  · exact visibility_of_mem_each h

/-- A member of a body comes with the visibility that the bare words before it leave. -/
theorem visibility_of_members {test : Node → Bool} {v : Visibility} {cs : List Node} {k : Nat}
    {y : Visit} (h : (members .body test v cs)[k]? = some y) :
    y.visibility =
      (((cs.filter test).take k).filterMap bareVisibility?).getLast?.getD v := by
  induction cs generalizing v k with
  | nil => cases h
  | cons c cs ih =>
    rw [members] at h
    by_cases hc : test c = true
    · rw [if_pos hc] at h
      rw [List.filter_cons_of_pos hc]
      cases k with
      | zero =>
        cases h
        rfl
      | succ k =>
        have hafter : visibilityAfter .body v c = (bareVisibility? c).getD v := by
          by_cases hkind : c.kind = .identifier <;>
            simp [visibilityAfter, bareVisibility?, hkind]
        rw [List.take_succ_cons, List.filterMap_cons, ih h, hafter]
        cases bareVisibility? c with
        | none => rfl
        | some w => simp [List.getLast?_cons]
    · rw [if_neg hc] at h
      rw [List.filter_cons_of_neg hc]
      exact ih h

/-- In the body of an object's own class everything is public. -/
theorem visibility_of_mem_members {test : Node → Bool} {v : Visibility} {cs : List Node}
    {y : Visit} (h : y ∈ members .singletonBody test v cs) : y.visibility = v := by
  induction cs with
  | nil => cases h
  | cons c cs ih =>
    rw [members] at h
    split at h
    · rcases List.mem_cons.mp h with rfl | h
      · rfl
      · exact ih h
    · exact ih h

/-- Code inside other code has the visibility of the code around it, unless that is a definition or
registers a callback. -/
theorem visibility_of_inside {settings : Settings} {x y : Visit} (hx : x.isCode = true)
    (h : y ∈ x.next settings) (hy : y.standing = .code .inside) :
    y.visibility =
      if x.defines || (x.registration? settings).isSome then .pub else x.visibility := by
  obtain ⟨n, standing, v⟩ := x
  cases standing with
  | code place =>
    by_cases hcall : n.kind = .call
    · have hdefines : defines ⟨n, .code place, v⟩ = false := by simp [defines, isDefinition, hcall]
      simp only [next, step, codeStep, hcall] at h
      cases hb : callAt settings place n with
      | plain =>
        have hregistration : registration? settings ⟨n, .code place, v⟩ = none := by
          cases place with
          | body =>
            have hbody : bodyCall settings n = .plain := hb
            simp only [registration?, hcall, hbody]
          | singletonBody | inside => rfl
        rw [hb] at h
        rw [hdefines, hregistration]
        exact visibility_of_mem_each h
      | callback r =>
        obtain ⟨rfl, hbody⟩ := callAt_ne_plain hb rfl
        rw [hb] at h
        have hregistration : registration? settings ⟨n, .code .body, v⟩ = some r := by
          simp only [registration?, hcall, hbody]
        rw [hregistration, Option.isSome_some, Bool.or_true, if_pos rfl]
        rcases List.mem_append.mp h with h | h
        · obtain ⟨c, -, rfl⟩ := Option.map_eq_some_iff.mp (Option.mem_toList.mp h)
          cases hy
        · exact visibility_of_mem_first h
      | wrapper w =>
        rw [hb] at h
        obtain ⟨c, -, rfl⟩ := Option.map_eq_some_iff.mp (Option.mem_toList.mp h)
        cases hy
      | directive names w =>
        rw [hb] at h
        cases h
    · rw [registration?_of_not_call hcall, Option.isSome_none, Bool.or_false]
      simp only [next, step] at h
      cases hkind : n.kind with
      | call => exact absurd hkind hcall
      | classDef | moduleDef | singletonClass =>
        simp only [codeStep, hkind] at h
        rcases standing_of_mem_ofBody h with h | h <;> simp [hy] at h
      | singletonMethod =>
        simp only [codeStep, hkind] at h
        rw [if_pos (by simp [defines, isDefinition, hkind])]
        exact visibility_of_mem_ofMethod h
      | method =>
        simp only [codeStep, hkind] at h
        rw [if_pos (by simp [defines, isDefinition, hkind])]
        split at h
        · cases h
        · exact visibility_of_mem_ofMethod h
      | assignment | operatorAssignment =>
        simp only [codeStep, hkind] at h
        rw [if_neg (by simp [defines, isDefinition, hkind])]
        rcases List.mem_append.mp h with h | h
        · exact visibility_of_mem_first h
        · exact visibility_of_mem_first h
      | identifier | methodParameters | parameters | blockParameters | lambdaParameters
      | exceptionVariable | comment =>
        simp only [codeStep, hkind] at h
        cases h
      | _ =>
        simp only [codeStep, hkind] at h
        rw [if_neg (by simp [defines, isDefinition, hkind])]
        exact visibility_of_mem_each h
  | _ => cases hx

/-- The visits from a call that sets the visibility of the methods in its arguments. -/
theorem next_of_wrapper {settings : Settings} {x : Visit} {w : Visibility}
    (hx : x.standing = .code .body) (hkind : x.node.kind = .call)
    (hbody : bodyCall settings x.node = .wrapper w) :
    x.next settings =
      first (Node.plays .arguments) (⟨·, .wrapped w, x.visibility⟩) x.node.children := by
  obtain ⟨n, standing, v⟩ := x
  cases hx
  have hkind' : n.kind = .call := hkind
  have hbody' : bodyCall settings n = .wrapper w := hbody
  simp only [next, step, codeStep, hkind', callAt, if_true, hbody', callStep]

/-- The arguments of such a call, and what it hands down to them. -/
theorem of_mem_next_wrapped {settings : Settings} {x y : Visit} {w : Visibility}
    (h : y ∈ x.next settings) (hy : y.standing = .wrapped w) :
    x.node.kind = .call ∧ bodyCall settings x.node = .wrapper w ∧
      x.node.child? .arguments = some y.node ∧ y.visibility = x.visibility := by
  obtain ⟨hx, -, hdefines⟩ := (follows_of_mem_next h).of_wrapped hy
  obtain ⟨n, standing, v⟩ := x
  cases hx
  by_cases hcall : n.kind = .call
  · simp only [next, step, codeStep, hcall] at h
    cases hb : callAt settings .body n with
    | plain =>
      rw [hb] at h
      rw [standing_of_mem_each h] at hy
      cases hy
    | callback r =>
      rw [hb] at h
      rcases List.mem_append.mp h with h | h
      · obtain ⟨c, -, rfl⟩ := Option.map_eq_some_iff.mp (Option.mem_toList.mp h)
        cases hy
      · rw [standing_of_mem_first h] at hy
        cases hy
    | wrapper u =>
      rw [hb] at h
      obtain ⟨c, hc, rfl⟩ := Option.map_eq_some_iff.mp (Option.mem_toList.mp h)
      cases hy
      exact ⟨hcall, hb, hc, rfl⟩
    | directive names u =>
      rw [hb] at h
      cases h
  · -- Only calls have arguments, so all other code goes on to code.
    have hinside : y.standing = .code .inside := by
      simp only [next, step] at h
      cases hkind : n.kind with
      | call => exact absurd hkind hcall
      | classDef | moduleDef | singletonClass | singletonMethod | method =>
        simp [defines, isDefinition, hkind] at hdefines
      | assignment | operatorAssignment =>
        simp only [codeStep, hkind] at h
        rcases List.mem_append.mp h with h | h
        · exact standing_of_mem_first h
        · exact standing_of_mem_first h
      | identifier | methodParameters | parameters | blockParameters | lambdaParameters
      | exceptionVariable | comment =>
        simp only [codeStep, hkind] at h
        cases h
      | _ =>
        simp only [codeStep, hkind] at h
        exact standing_of_mem_each h
    rw [hinside] at hy
    cases hy

/-- What such arguments hand down: the visibility of the call to definitions, and that of the code
around the call to everything else. -/
theorem of_mem_wrapped_next {settings : Settings} {x y : Visit} {w : Visibility}
    (hx : x.standing = .wrapped w) (h : y ∈ x.next settings) :
    y.node ∈ x.node.named ∧
      y.visibility = if y.node.kind = .method then w else x.visibility := by
  obtain ⟨n, standing, v⟩ := x
  cases hx
  obtain ⟨c, hc, rfl⟩ := List.mem_map.mp h
  exact ⟨hc, rfl⟩

/-- In the arguments of a call that registers a callback all code is public. -/
theorem visibility_of_arguments {settings : Settings} {x y : Visit}
    (hx : x.standing = .arguments ∨ x.standing = .loose) (h : y ∈ x.next settings) :
    y.visibility = .pub := by
  obtain ⟨n, standing, v⟩ := x
  rcases hx with rfl | rfl
  · have harguments : ∀ (seen : Bool) (cs : List Node), y ∈ callbackArguments seen cs →
        y.visibility = .pub := by
      intro seen cs
      induction cs generalizing seen with
      | nil => intro h; cases h
      | cons c cs ih =>
        intro h
        rw [callbackArguments] at h
        split at h
        · rcases List.mem_append.mp h with h | h
          · split at h
            · rw [List.mem_singleton.mp h]
              rfl
            · split at h
              · cases h
              · rw [List.mem_singleton.mp h]
          · exact ih true h
        · exact ih seen h
    exact harguments false n.children h
  · rw [List.mem_singleton.mp h]
    rfl

/-- In an object's own class all members are public. -/
theorem visibility_of_singletonBody {settings : Settings} {x y : Visit}
    (h : y ∈ x.next settings) (hy : y.standing = .code .singletonBody) :
    y.visibility = .pub := by
  rcases (follows_of_mem_next h).of_code_singletonBody hy with hx | hx
  · obtain ⟨n, standing, v⟩ := x
    cases standing with
    | code place =>
      have hkind : n.kind = .singletonClass := by simpa [isSingletonClass, isCode] using hx
      simp only [next, step, codeStep, hkind] at h
      unfold ofBody at h
      split at h
      · obtain ⟨b, -, rfl⟩ := Option.map_eq_some_iff.mp (Option.mem_toList.mp h)
        rfl
      · exact visibility_of_mem_members h
    | _ => cases hx
  · obtain ⟨n, standing, v⟩ := x
    cases hx
    exact visibility_of_mem_members h

end Visit

/-! ## Members of a body -/

namespace Trail

/-- The members of the body of the namespace that a trail opens. -/
def members (root : Node) : Trail → List Node
  | [] => root.named
  | (_, x) :: _ => membersOf x.node

variable {settings : Settings} {root : Node}

theorem membersOf_of_body {definition b : Node} (hbody : definition.child? .body = some b)
    (hkind : b.kind = .bodyStatement) : membersOf definition = b.named := by
  rw [membersOf, hbody]
  exact if_pos hkind

/-- The walk through the body of a definition, by the forms that it may have. -/
theorem ofBody_cases (place : Place) (definition : Node) :
    (∃ b, definition.child? .body = some b ∧ b.kind = .bodyStatement ∧
        Visit.ofBody place definition.children = [⟨b, .statements place, .pub⟩]) ∨
      (∃ b, membersOf definition = [b] ∧
        Visit.ofBody place definition.children = [⟨b, .code place, .pub⟩]) ∨
      membersOf definition = definition.children.filter isStatement ∧
        Visit.ofBody place definition.children =
          Visit.members place isStatement .pub definition.children := by
  cases hbody : definition.child? .body with
  | none =>
    have hnone : hasBody definition.children = false := by
      rw [hasBody, List.any_eq_false]
      exact List.find?_eq_none.mp hbody
    refine .inr (.inr ⟨by rw [membersOf, hbody], ?_⟩)
    rw [Visit.ofBody, if_neg (by simp [hnone])]
  | some b =>
    have hfind : definition.children.find? (Node.plays .body) = some b := hbody
    have hsome : hasBody definition.children = true :=
      List.any_eq_true.mpr ⟨b, List.mem_of_find?_eq_some hfind, List.find?_some hfind⟩
    rw [Visit.ofBody, if_pos hsome, Visit.first, hfind]
    by_cases hkind : b.kind = .bodyStatement
    · exact .inl ⟨b, rfl, hkind, by simp [hkind]⟩
    · exact .inr (.inl ⟨b, by simp [membersOf, hbody, hkind], by simp [hkind]⟩)

/-- The statements of a body are its members. -/
theorem Reached.members_statements {number : Nat} {x : Visit} {around : Trail}
    (h : Reached settings root ((number, x) :: around)) (hx : x.standing = .statements .body) :
    members root (space around) = x.node.named := by
  cases h with
  | file => rfl
  | @next i _ z _ rest _ hi =>
    have hmem : x ∈ z.next settings := List.mem_of_getElem? hi
    have hopens : z.opens = true := (Visit.follows_of_mem_next hmem).of_statements_body hx
    rw [space_of_opens hopens, members]
    rw [Visit.next_of_opens hopens] at hmem
    rcases ofBody_cases .body z.node with ⟨b, hbody, hkind, hnext⟩ | ⟨b, -, hnext⟩ | ⟨-, hnext⟩
    · rw [hnext] at hmem
      rw [List.mem_singleton.mp hmem, membersOf_of_body hbody hkind]
    · rw [hnext] at hmem
      rw [List.mem_singleton.mp hmem] at hx
      cases hx
    · rw [hnext] at hmem
      rw [Visit.standing_of_mem_members hmem] at hx
      cases hx

/-- A member of a body has its number among the members, and the visibility in force after those
before it. -/
theorem Reached.visibility_of_member {k : Nat} {m : Visit} {around : Trail}
    (h : Reached settings root ((k, m) :: around)) (hm : m.standing = .code .body) :
    (members root (space around))[k]? = some m.node ∧
      m.visibility = cursor ((members root (space around)).take k) := by
  have hmembers : ∀ (test : Node → Bool) (cs : List Node),
      (Visit.members .body test .pub cs)[k]? = some m →
        (cs.filter test)[k]? = some m.node ∧ m.visibility = cursor ((cs.filter test).take k) := by
    intro test cs hk
    refine ⟨?_, Visit.visibility_of_members hk⟩
    rw [← Visit.map_node_members .body test .pub cs, List.getElem?_map, hk]
    rfl
  cases h with
  | file => cases hm
  | @next number _ x _ rest hx hk =>
    have hmem : m ∈ x.next settings := List.mem_of_getElem? hk
    rcases (Visit.follows_of_mem_next hmem).of_code_body hm with hopens | hstatements
    · rw [space_of_opens hopens, members]
      rw [Visit.next_of_opens hopens] at hk
      rcases ofBody_cases .body x.node with ⟨b, -, -, hnext⟩ | ⟨b, hone, hnext⟩ | ⟨hall, hnext⟩
      · rw [hnext] at hk
        rw [List.mem_singleton.mp (List.mem_of_getElem? hk)] at hm
        cases hm
      · rw [hnext] at hk
        obtain ⟨hlt, hget⟩ := List.getElem?_eq_some_iff.mp hk
        have hzero : k = 0 := by
          rw [List.length_singleton] at hlt
          omega
        subst hzero
        rw [hone, ← hget]
        exact ⟨rfl, rfl⟩
      · rw [hnext] at hk
        rw [hall]
        exact hmembers isStatement x.node.children hk
    · have hnot : x.opens = false := by simp [Visit.opens, hstatements]
      rw [space_of_not_opens hnot, hx.members_statements hstatements]
      refine hmembers Node.isNamed x.node.children ?_
      obtain ⟨n, standing, v⟩ := x
      cases hstatements
      exact hk

/-- The body of a namespace is the outline of its members. -/
theorem exists_members {t : Trail} (h : t ∈ spaces settings root) :
    ∃ ys : List Visit, body settings root t = ys.flatMap (Visit.outline settings) ∧
      (∀ y ∈ ys, y.standing = .code .body) ∧ ys.map (·.node) = members root t := by
  have hstatements : ∀ (n : Node) (ys : List Visit),
      ys = Visit.members .body Node.isNamed .pub n.children →
      Visit.outline settings ⟨n, .statements .body, .pub⟩ =
          ys.flatMap (Visit.outline settings) ∧
        (∀ y ∈ ys, y.standing = .code .body) ∧ ys.map (·.node) = n.named := by
    rintro n ys rfl
    exact ⟨Visit.memberItems_eq settings .body Node.isNamed .pub n.children,
      fun y hy => Visit.standing_of_mem_members hy, Visit.map_node_members ..⟩
  rcases List.mem_cons.mp h with rfl | h
  · exact ⟨_, hstatements root _ rfl⟩
  · obtain ⟨-, hopening⟩ := List.mem_filter.mp h
    cases t with
    | nil => cases hopening
    | cons v around =>
      have hopens : v.2.opens = true := hopening
      rw [body, members, Visit.next_of_opens hopens]
      rcases ofBody_cases .body v.2.node with
        ⟨b, hbody, hkind, hnext⟩ | ⟨b, hone, hnext⟩ | ⟨hall, hnext⟩
      · rw [hnext, membersOf_of_body hbody hkind, List.flatMap_singleton]
        exact ⟨_, hstatements b _ rfl⟩
      · rw [hnext, hone]
        exact ⟨_, rfl, List.forall_mem_singleton.mpr rfl, rfl⟩
      · rw [hnext, hall]
        exact ⟨_, rfl, fun y hy => Visit.standing_of_mem_members hy, Visit.map_node_members ..⟩

/-- The methods of a namespace are the last definitions in it, with the visibility that its members
give to their names, if they do. -/
theorem methods_settled {t : Trail} (h : t ∈ spaces settings root) :
    (context settings root t).methods =
      (Context.latest ((definitionsIn settings root t).filterMap defined?)).map
        (settled (members root t)) := by
  obtain ⟨ys, hbody, hys, hmembers⟩ := exists_members h
  rw [methods_context h, hbody, Visit.directives_members hys, hmembers]
  refine List.map_congr_left fun m _ => ?_
  rw [Context.directed, settled, lookup_reverse_flatMap_directed]
  cases lastDirective? (members root t) m.name <;> rfl

/-! ## The visibility at a definition -/

/-- The visits from the end of a trail out to the innermost member of a body, with that member. -/
def toMember : Trail → Trail
  | [] => []
  | v :: around => if v.2.standing = .code .body then [v] else v :: toMember around

/-- The visits around the end of a trail, out to the innermost member of a body. -/
def enclosing (u : Trail) : Trail := (toMember u).tail

/-- The node at the end of a trail is an argument of a member of a body, which is a call without a
receiver that is named for a visibility. -/
def ArgumentOf (u : Trail) (w : Visibility) : Prop :=
  ∃ d a m, u.head? = some d ∧ enclosing u = [a, m] ∧ d.2.node ∈ a.2.node.named ∧
    m.2.node.child? .arguments = some a.2.node ∧ calledVisibility? m.2.node = some w

/-- The visibility of what is defined at the end of a trail, told from the nodes around it. -/
inductive VisibleAs (settings : Settings) (root : Node) (u : Trail) : Visibility → Prop where
  /-- Everything is public in another definition: of a method, of an object's own method, or of an
  object's own class. -/
  | nested (h : ∃ v ∈ enclosing u, v.2.defines = true) : VisibleAs settings root u .pub
  /-- Otherwise everything is public in a call that registers a callback. -/
  | callback (hdefines : ∀ v ∈ enclosing u, v.2.defines = false)
      (h : ∃ v ∈ enclosing u, (v.2.registration? settings).isSome = true) :
      VisibleAs settings root u .pub
  /-- Otherwise an argument of a call that is named for a visibility has this one. -/
  | argument (w : Visibility) (hdefines : ∀ v ∈ enclosing u, v.2.defines = false)
      (hregistration : ∀ v ∈ enclosing u, v.2.registration? settings = none)
      (h : ArgumentOf u w) : VisibleAs settings root u w
  /-- Otherwise the last bare word counts among the earlier members of the same body. -/
  | word (hdefines : ∀ v ∈ enclosing u, v.2.defines = false)
      (hregistration : ∀ v ∈ enclosing u, v.2.registration? settings = none)
      (hargument : ∀ w, ¬ ArgumentOf u w) (k : Nat) (m : Visit) (around : Trail)
      (hmember : member u = (k, m) :: around)
      (hk : (members root (space u.tail))[k]? = some m.node) :
      VisibleAs settings root u (cursor ((members root (space u.tail)).take k))

theorem toMember_of_body {v : Nat × Visit} {around : Trail} (h : v.2.standing = .code .body) :
    toMember (v :: around) = [v] := by
  rw [toMember, if_pos h]

theorem toMember_of_not_body {v : Nat × Visit} {around : Trail} (h : v.2.standing ≠ .code .body) :
    toMember (v :: around) = v :: toMember around := by
  rw [toMember, if_neg h]

theorem toMember_eq_cons (v : Nat × Visit) (around : Trail) :
    toMember (v :: around) = v :: enclosing (v :: around) := by
  rw [enclosing]
  by_cases h : v.2.standing = .code .body
  · rw [toMember_of_body h]
    rfl
  · rw [toMember_of_not_body h]
    rfl

theorem enclosing_of_not_body {v : Nat × Visit} {around : Trail}
    (h : v.2.standing ≠ .code .body) : enclosing (v :: around) = toMember around := by
  rw [enclosing, toMember_of_not_body h]
  rfl

/-- What decides the visibility of code on a trail. -/
inductive Given (settings : Settings) (u : Trail) (y : Visit) : Prop where
  /-- A definition around it, or a call that registers a callback. -/
  | reset (hpub : y.visibility = .pub)
      (h : ∃ v ∈ enclosing u, v.2.defines = true ∨ (v.2.registration? settings).isSome = true)
  /-- The call whose argument it is. -/
  | argument (hnone : ∀ v ∈ enclosing u, v.2.defines = false ∧ v.2.registration? settings = none)
      (w : Visibility) (hkind : y.node.kind = .method) (h : ArgumentOf u w)
  /-- The member of a body in which it lies. -/
  | member (hnone : ∀ v ∈ enclosing u, v.2.defines = false ∧ v.2.registration? settings = none)
      (k : Nat) (m : Visit) (around : Trail) (hmember : Trail.member u = (k, m) :: around)
      (hvisibility : y.visibility = m.visibility)

section Steps

variable {i number : Nat} {x y : Visit} {around : Trail}

/-- Code inside other code. -/
theorem Given.inside (hx : x.isCode = true) (hnext : y ∈ x.next settings)
    (hy : y.standing = .code .inside) (h : Given settings ((number, x) :: around) x) :
    Given settings ((i, y) :: (number, x) :: around) y := by
  have henclosing : enclosing ((i, y) :: (number, x) :: around) =
      (number, x) :: enclosing ((number, x) :: around) := by
    rw [enclosing_of_not_body (by simp [hy]), toMember_eq_cons]
  have hvisibility := Visit.visibility_of_inside hx hnext hy
  by_cases hreset : (x.defines || (x.registration? settings).isSome) = true
  · rw [if_pos hreset] at hvisibility
    refine .reset hvisibility ⟨(number, x), ?_, Bool.or_eq_true_iff.mp hreset⟩
    rw [henclosing]
    exact List.mem_cons_self
  · rw [if_neg hreset] at hvisibility
    obtain ⟨hdefines, hregistration⟩ := not_or.mp (fun h => hreset (Bool.or_eq_true_iff.mpr h))
    cases h with
    | reset hpub h =>
      obtain ⟨v, hv, hreset'⟩ := h
      refine .reset (hvisibility.trans hpub) ⟨v, ?_, hreset'⟩
      rw [henclosing]
      exact List.mem_cons_of_mem _ hv
    | argument _ w hkind _ =>
      -- The code around would be a definition.
      obtain ⟨n, standing, v⟩ := x
      cases standing with
      | code place =>
        have hkind' : n.kind = .method := hkind
        exact absurd (by simp [Visit.defines, Visit.isDefinition, hkind']) hdefines
      | _ => cases hx
    | member hnone k m rest hmember hm =>
      refine .member ?_ k m rest ?_ (hvisibility.trans hm)
      · rw [henclosing]
        refine List.forall_mem_cons.mpr ⟨⟨?_, ?_⟩, hnone⟩
        · exact Bool.eq_false_iff.mpr hdefines
        · exact Option.isNone_iff_eq_none.mp (by simpa using hregistration)
      · rw [← hmember, Trail.member, Trail.member, List.dropWhile_cons_of_pos (by simp [hy])]

/-- An argument of a call that is named for a visibility. -/
theorem Given.wrapped {j : Nat} {a : Visit} {w : Visibility} (hx : x.standing = .code .body)
    (hregistration : x.registration? settings = none) (hdefines : x.defines = false)
    (ha : a.standing = .wrapped w) (hxa : a ∈ x.next settings) (hay : y ∈ a.next settings)
    (hy : y.standing = .code .inside) :
    Given settings ((i, y) :: (j, a) :: (number, x) :: around) y := by
  have henclosing : enclosing ((i, y) :: (j, a) :: (number, x) :: around) =
      [(j, a), (number, x)] := by
    rw [enclosing_of_not_body (by simp [hy]), toMember_of_not_body (by simp [ha]),
      toMember_of_body hx]
  obtain ⟨hkind, hbody, harguments, hgiven⟩ := Visit.of_mem_next_wrapped hxa ha
  obtain ⟨hnamed, hvisibility⟩ := Visit.of_mem_wrapped_next ha hay
  have hnone : ∀ v ∈ enclosing ((i, y) :: (j, a) :: (number, x) :: around),
      v.2.defines = false ∧ v.2.registration? settings = none := by
    rw [henclosing]
    refine List.forall_mem_cons.mpr ⟨⟨?_, ?_⟩, List.forall_mem_singleton.mpr ?_⟩
    · exact Visit.defines_eq_false (by simp [Visit.isCode, ha])
    · exact Visit.registration?_eq_none (by simp [ha])
    · exact ⟨hdefines, hregistration⟩
  by_cases hmethod : y.node.kind = .method
  · have hcalled : calledVisibility? x.node = some w := ((bodyCall_eq_wrapper_iff hkind).mp hbody).1
    exact .argument hnone w hmethod ⟨_, _, _, rfl, henclosing, hnamed, harguments, hcalled⟩
  · rw [if_neg hmethod] at hvisibility
    refine .member hnone number x around ?_ (hvisibility.trans hgiven)
    rw [Trail.member, List.dropWhile_cons_of_pos (by simp [hy]),
      List.dropWhile_cons_of_pos (by simp [ha]), List.dropWhile_cons_of_neg (by simp [hx])]

end Steps

/-- Code in the arguments of a call that registers a callback lies in this call. -/
theorem Reached.exists_enclosing_registration {i : Nat} {x : Visit} {around : Trail}
    (h : Reached settings root ((i, x) :: around))
    (hx : x.standing = .arguments ∨ x.standing = .loose) :
    ∃ v ∈ toMember ((i, x) :: around), (v.2.registration? settings).isSome = true := by
  have harguments : ∀ {j : Nat} {a : Visit} {around : Trail},
      Reached settings root ((j, a) :: around) → a.standing = .arguments →
        ∃ v ∈ toMember ((j, a) :: around), (v.2.registration? settings).isSome = true := by
    intro j a around ha hstanding
    obtain ⟨number, z, rest, r, rfl, hregistration, -⟩ := ha.exists_registration hstanding
    have hz := (Visit.of_registration? hregistration).1
    refine ⟨(number, z), ?_, by rw [hregistration]; rfl⟩
    rw [toMember_of_not_body (by simp [hstanding]), toMember_of_body hz]
    simp
  rcases hx with hx | hx
  · exact harguments h hx
  · obtain ⟨j, a, rest, rfl, ha, hfollows⟩ := h.exists_parent (by simp [hx])
    obtain ⟨v, hv, hregistration⟩ := harguments ha (hfollows.of_loose hx)
    refine ⟨v, ?_, hregistration⟩
    rw [toMember_of_not_body (by simp [hx])]
    exact List.mem_cons_of_mem _ hv

/-- Members of an object's own class lie in it. -/
theorem Reached.exists_enclosing_singletonClass {i : Nat} {x : Visit} {around : Trail}
    (h : Reached settings root ((i, x) :: around))
    (hx : x.isSingletonClass = true ∨ x.standing = .statements .singletonBody) :
    ∃ v ∈ toMember ((i, x) :: around), v.2.defines = true := by
  have hself : ∀ {j : Nat} {z : Visit} {around : Trail}, z.isSingletonClass = true →
      ∃ v ∈ toMember ((j, z) :: around), v.2.defines = true := by
    intro j z around hz
    refine ⟨(j, z), ?_, Visit.defines_of_isSingletonClass hz⟩
    rw [toMember_eq_cons]
    exact List.mem_cons_self
  rcases hx with hx | hx
  · exact hself hx
  · obtain ⟨j, z, rest, rfl, -, hfollows⟩ := h.exists_parent (by simp [hx])
    rcases hfollows.of_statements hx with ⟨-, hplace⟩ | ⟨hz, -⟩
    · cases hplace
    · obtain ⟨v, hv, hdefines⟩ := @hself j z rest hz
      refine ⟨v, ?_, hdefines⟩
      rw [toMember_of_not_body (by simp [hx])]
      exact List.mem_cons_of_mem _ hv

/-- Everywhere on the walk the visibility of code is given by one of these. -/
theorem Reached.given {t : Trail} (h : Reached settings root t) : ∀ v around, t = v :: around →
    v.2.isCode = true → Given settings t v.2 := by
  induction h with
  | file =>
    rintro v around ⟨⟩ hcode
    cases hcode
  | @next number i x y around hx hy ih =>
    rintro v around' ⟨⟩ hcode
    have hmem : y ∈ x.next settings := List.mem_of_getElem? hy
    have hfollows := Visit.follows_of_mem_next hmem
    cases hstanding : y.standing with
    | code place =>
      cases place with
      | body =>
        refine .member ?_ i y ((number, x) :: around) ?_ rfl
        · rw [enclosing, toMember_of_body hstanding]
          exact List.forall_mem_nil _
        · rw [Trail.member, List.dropWhile_cons_of_neg (by simp [hstanding])]
      | singletonBody =>
        refine .reset (Visit.visibility_of_singletonBody hmem hstanding) ?_
        obtain ⟨v, hv, hdefines⟩ :=
          hx.exists_enclosing_singletonClass (hfollows.of_code_singletonBody hstanding)
        rw [enclosing_of_not_body (by simp [hstanding])]
        exact ⟨v, hv, .inl hdefines⟩
      | inside =>
        have harguments : x.standing = .arguments ∨ x.standing = .loose →
            Given settings ((i, y) :: (number, x) :: around) y := by
          intro hstanding'
          refine .reset (Visit.visibility_of_arguments hstanding' hmem) ?_
          obtain ⟨v, hv, hregistration⟩ := hx.exists_enclosing_registration hstanding'
          rw [enclosing_of_not_body (by simp [hstanding])]
          exact ⟨v, hv, .inr hregistration⟩
        cases hfollows with
        | inside hcode' => exact (ih _ _ rfl hcode').inside hcode' hmem hstanding
        | wrappedArgument w hw =>
          obtain ⟨k, z, rest, rfl, hz, hfollows'⟩ := hx.exists_parent (by simp [hw])
          obtain ⟨hbody, hregistration, hdefines⟩ := hfollows'.of_wrapped hw
          cases hx with
          | next _ hj =>
            exact .wrapped hbody hregistration hdefines hw (List.mem_of_getElem? hj) hmem hstanding
        | lambda ha => exact harguments (.inl ha)
        | loose hl => exact harguments (.inr hl)
        | statement place hstatements hplace =>
          -- The statements of a body stand in a class, a module, an object's own class or a file.
          obtain rfl : place = .inside := by simpa [hplace] using hstanding
          obtain ⟨k, z, rest, -, -, hfollows'⟩ := hx.exists_parent (by simp [hstatements])
          rcases hfollows'.of_statements hstatements with ⟨-, h⟩ | ⟨-, h⟩ <;> cases h
        | body _ h | singletonBody _ h => rcases h with h | h <;> simp [hstanding] at h
        | _ => simp_all
    | _ => simp [Visit.isCode, hstanding] at hcode

/-- A definition that is an argument of a call that is named for a visibility has this one. -/
theorem Reached.visibility_of_argumentOf {v : Nat × Visit} {around : Trail} {w : Visibility}
    (h : Reached settings root (v :: around)) (hkind : v.2.node.kind = .method)
    (hargument : ArgumentOf (v :: around) w) : v.2.visibility = w := by
  obtain ⟨d, a, m, hd, henclosing, hnamed, harguments, hcalled⟩ := hargument
  obtain rfl : v = d := Option.some.inj hd
  have hv : v.2.standing ≠ .code .body := by
    intro hv
    rw [enclosing, toMember_of_body hv] at henclosing
    cases henclosing
  rw [enclosing_of_not_body hv] at henclosing
  cases h with
  | file => cases henclosing
  | @next j i x y rest hx hi =>
    have hxa : (j, x) = a := by
      rw [toMember_eq_cons] at henclosing
      exact (List.cons.inj henclosing).1
    subst hxa
    have hxbody : x.standing ≠ .code .body := by
      intro hxbody
      rw [toMember_of_body hxbody] at henclosing
      cases henclosing
    rw [toMember_of_not_body hxbody] at henclosing
    cases hx with
    | file => cases henclosing
    | @next k _ z _ rest' hz hj =>
      rw [toMember_eq_cons] at henclosing
      obtain ⟨rfl, hnil⟩ := List.cons.inj (List.cons.inj henclosing).2
      have hmem : x ∈ z.next settings := List.mem_of_getElem? hj
      have hcall : z.node.kind = .call := by
        by_contra hcall
        rw [calledVisibility?_eq_none hcall] at hcalled
        cases hcalled
      have hzbody : z.standing = .code .body := by
        by_contra hzbody
        rw [enclosing_of_not_body hzbody] at hnil
        cases hz with
        | file => exact hxbody (Visit.standing_of_mem_next_statements rfl hmem)
        | next _ _ =>
          rw [toMember_eq_cons] at hnil
          cases hnil
      have hwrapper : bodyCall settings z.node = .wrapper w := by
        refine (bodyCall_eq_wrapper_iff hcall).mpr ⟨hcalled, x.node, harguments, ?_⟩
        exact List.any_eq_true.mpr ⟨y.node, hnamed, decide_eq_true hkind⟩
      rw [Visit.next_of_wrapper hzbody hcall hwrapper] at hmem
      obtain ⟨c, -, rfl⟩ := Option.map_eq_some_iff.mp (Option.mem_toList.mp hmem)
      obtain ⟨-, hvisibility⟩ := Visit.of_mem_wrapped_next rfl (List.mem_of_getElem? hi)
      rw [hvisibility, if_pos hkind]

theorem mem_toMember_append {inner rest : Trail} {v : Nat × Visit}
    (hinner : ∀ w ∈ inner, w.2.standing ≠ .code .body) (hv : v.2.standing = .code .body) :
    v ∈ toMember (inner ++ v :: rest) := by
  induction inner with
  | nil =>
    rw [List.nil_append, toMember_of_body hv]
    exact List.mem_cons_self
  | cons w inner ih =>
    obtain ⟨hw, hinner⟩ := List.forall_mem_cons.mp hinner
    rw [List.cons_append, toMember_of_not_body hw]
    exact List.mem_cons_of_mem _ (ih hinner)

/-- The member of a body in which code lies is one of the members of the innermost namespace. -/
theorem Reached.space_of_member {v : Nat × Visit} {around rest : Trail} {k : Nat} {m : Visit}
    (h : Reached settings root (v :: around)) (hcode : v.2.isCode = true)
    (hdefines : ∀ w ∈ enclosing (v :: around), w.2.defines = false)
    (hmember : member (v :: around) = (k, m) :: rest) :
    Reached settings root ((k, m) :: rest) ∧ m.standing = .code .body ∧
      space around = space rest := by
  have hm : m.standing = .code .body := by
    have hhead := List.head?_dropWhile_not
      (fun v : Nat × Visit => decide (v.2.standing ≠ .code .body)) (v :: around)
    rw [show (v :: around).dropWhile _ = (k, m) :: rest from hmember] at hhead
    simpa using hhead
  have hsplit : v :: around = insideMember (v :: around) ++ (k, m) :: rest := by
    rw [← hmember]
    exact List.takeWhile_append_dropWhile.symm
  have hinside : ∀ w ∈ insideMember (v :: around), w.2.standing ≠ .code .body :=
    fun w hw => of_decide_eq_true (List.all_eq_true.mp List.all_takeWhile w hw)
  refine ⟨?_, hm, ?_⟩
  · rw [hsplit] at h
    exact h.of_append
  · cases hinner : insideMember (v :: around) with
    | nil =>
      rw [hinner, List.nil_append] at hsplit
      rw [(List.cons.inj hsplit).2]
    | cons w inner =>
      rw [hinner] at hinside
      rw [hinner, List.cons_append] at hsplit
      obtain ⟨rfl, rfl⟩ := List.cons.inj hsplit
      obtain ⟨hv, hinner'⟩ := List.forall_mem_cons.mp hinside
      have hmem : (k, m) ∈ enclosing (v :: (inner ++ (k, m) :: rest)) := by
        rw [enclosing_of_not_body hv]
        exact mem_toMember_append hinner' hm
      have hopens : m.opens = false := by
        rw [Bool.eq_false_iff]
        intro hopens
        have hnot := hdefines _ hmem
        rw [Visit.defines_of_opens hopens] at hnot
        cases hnot
      have hstatements : v.2.standing ≠ .statements .body := by
        intro hstatements
        simp [Visit.isCode, hstatements] at hcode
      exact space_of_inside hopens inner v h ⟨hv, hstatements⟩ hinner'

/-- The visibility at a definition is the one that the nodes around it tell. -/
theorem Reached.visibleAs {u : Trail} {m : MethodDef} (h : Reached settings root u)
    (hm : u.defined? = some m) : VisibleAs settings root u m.visibility := by
  cases u with
  | nil => cases hm
  | cons v around =>
    obtain ⟨hdefines, hkind, -, hdefinition⟩ := Visit.method?_eq_some_iff.mp hm
    have hcode : v.2.isCode = true := by
      by_contra hcode
      rw [Visit.defines_eq_false (Bool.eq_false_iff.mpr hcode)] at hdefines
      cases hdefines
    have hvisibility : m.visibility = v.2.visibility := by
      obtain ⟨name, -, rfl⟩ := Option.map_eq_some_iff.mp hdefinition
      rfl
    rw [hvisibility]
    have hgiven := h.given v around rfl hcode
    by_cases hnested : ∃ w ∈ enclosing (v :: around), w.2.defines = true
    · have hpub : v.2.visibility = .pub := by
        obtain ⟨w, hw, hwdefines⟩ := hnested
        cases hgiven with
        | reset hpub _ => exact hpub
        | argument hnone | member hnone =>
          rw [(hnone w hw).1] at hwdefines
          cases hwdefines
      rw [hpub]
      exact .nested hnested
    have hnot : ∀ w ∈ enclosing (v :: around), w.2.defines = false :=
      fun w hw => Bool.eq_false_iff.mpr fun hwdefines => hnested ⟨w, hw, hwdefines⟩
    cases hgiven with
    | reset hpub hreset =>
      obtain ⟨w, hw, hreset⟩ := hreset
      rw [hpub]
      refine .callback hnot ⟨w, hw, hreset.resolve_left ?_⟩
      rw [hnot w hw]
      simp
    | argument hnone w _ hargument =>
      rw [h.visibility_of_argumentOf hkind hargument]
      exact .argument w hnot (fun x hx => (hnone x hx).2) hargument
    | member hnone k member rest hmember hsame =>
      by_cases hargument : ∃ w, ArgumentOf (v :: around) w
      · obtain ⟨w, hargument⟩ := hargument
        rw [h.visibility_of_argumentOf hkind hargument]
        exact .argument w hnot (fun x hx => (hnone x hx).2) hargument
      · obtain ⟨hreached, hbody, hspace⟩ := h.space_of_member hcode hnot hmember
        obtain ⟨hk, hcursor⟩ := hreached.visibility_of_member hbody
        rw [← hspace] at hk hcursor
        rw [hsame, hcursor]
        exact .word hnot (fun x hx => (hnone x hx).2) (not_exists.mp hargument) k member rest
          hmember hk

/-- **Who may call the methods of a namespace.** They are the last definitions of their names, and
each may be called by those that the last call for its name says, or else by those that the nodes
around its definition tell. -/
theorem visibility_exact (settings : Settings) (root : Node) :
    -- the methods of each namespace are the last definitions in it, one after another, with the
    -- visibility that its members give to their names, if they do
    List.Forall₂ (fun t c => c.methods =
        (Context.latest ((definitionsIn settings root t).filterMap defined?)).map
          (settled (members root t)))
      (spaces settings root) (Index.ofTree settings root).contexts ∧
    (∀ t ∈ spaces settings root, ∀ u ∈ definitionsIn settings root t,
      -- the namespace is the innermost one around each of them, and the visits between them are to
      -- the nodes between them, without passing over any definition
      space u.tail = t ∧ u.IsChain Nested ∧
      (∀ v ∈ u, Visit.isDefinition v.2.node = true → Seen root u v.2.node) ∧
      -- and where nothing is said of its name, a definition has this visibility
      ∃ m, u.defined? = some m ∧ VisibleAs settings root u m.visibility) ∧
    -- all this in document order
    ((∀ n, root.Holds n → n.Ordered) → ∀ t ∈ spaces settings root,
      (nodes (definitionsIn settings root t)).Sublist (opening root t).inOrder) := by
  refine ⟨?_, fun t ht u hu => ?_, fun hordered t ht => nodes_definitionsIn_sublist ht hordered⟩
  · rw [contexts_ofTree, List.forall₂_map_right_iff, List.forall₂_same]
    exact fun t ht => methods_settled ht
  · have hreached := reached_of_mem_definitionsIn ht hu
    obtain ⟨-, hsome⟩ := of_decide_eq_true (List.mem_filter.mp hu).2
    obtain ⟨m, hm⟩ := Option.isSome_iff_exists.mp hsome
    refine ⟨space_of_mem_definitionsIn hu, hreached.isChain, fun v hv hdefinition => ?_, m, hm,
      hreached.visibleAs hm⟩
    rcases hreached.seen v hv hdefinition with hseen | ⟨hhead, hloose⟩
    · exact hseen
    · -- The end of the trail is looked at as code.
      obtain ⟨w, hw, hmethod⟩ := Option.bind_eq_some_iff.mp hm
      obtain rfl : w = v := Option.some.inj (hw.symm.trans hhead)
      have hdefines := (Visit.method?_eq_some_iff.mp hmethod).1
      rw [Visit.defines_eq_false (by simp [Visit.isCode, hloose])] at hdefines
      cases hdefines

/-- A controller with one method for each way to get a visibility, and one that is defined twice. -/
def mixedController : Node :=
  Scan.controllerOf
    [Scan.actionOf "index" [], ⟨{ kind := .identifier, text := "private" }, []⟩,
      Scan.actionOf "show" [], Scan.callOf "public" 4 [Scan.actionOf "edit" []],
      ⟨{ kind := .call },
        [⟨{ kind := .identifier, roles := [.method], text := "before_action" }, []⟩,
          ⟨{ kind := .block, roles := [.block] }, [Scan.actionOf "check" []]⟩]⟩,
      Scan.actionOf "create" [Scan.actionOf "helper" []],
      Scan.callOf "protected" 7 [Scan.quoted "index"], Scan.actionOf "index" []]

theorem visibility_exact_mixed :
    (∀ n, mixedController.Holds n → n.Ordered) ∧
      ((Index.ofTree {} mixedController).contexts.map
        (·.methods.map fun m => (m.name, m.visibility))) =
          [[], [("show", .priv), ("edit", .pub), ("check", .pub), ("create", .priv),
            ("helper", .pub), ("index", .prot)]] ∧
      ∀ t ∈ spaces {} mixedController,
        (nodes (definitionsIn {} mixedController t)).Sublist
          (opening mixedController t).inOrder := by
  have hordered : ∀ n, mixedController.Holds n → n.Ordered := by
    intro n hn
    have htest : mixedController.everywhere (fun n => decide n.Ordered) = true := by
      decide +kernel
    exact of_decide_eq_true (Node.everywhere_iff.mp htest n hn)
  obtain ⟨-, -, horder⟩ := visibility_exact {} mixedController
  exact ⟨hordered, by decide +kernel, horder hordered⟩

/-- A call that names two methods, with a comment between the names. -/
def commentedCall : Node :=
  Scan.callOf "private" 3 [Scan.quoted "load", ⟨{ kind := .comment, text := "# too" }, []⟩,
    Scan.quoted "show"]

/-- A comment makes such a call void, although its arguments are names and nothing else. -/
theorem comment_voids_call :
    calledVisibility? commentedCall = some .priv ∧
      ((commentedCall.child? .arguments).bind fun arguments =>
        Node.plainTexts? (arguments.named.filter (·.kind ≠ .comment))) = some ["load", "show"] ∧
      ((Index.ofTree {} (Scan.controllerOf [Scan.actionOf "show" [], commentedCall])).contexts.map
        (·.methods.map fun m => (m.name, m.visibility))) = [[], [("show", .pub)]] := by
  decide +kernel

end Trail

end Outline

end LocaleKeys

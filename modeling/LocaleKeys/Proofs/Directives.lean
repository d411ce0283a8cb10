import LocaleKeys.Proofs.DocumentOrder
import LocaleKeys.Proofs.WalkSteps

/-!
# Proofs: what the members of a body say

Bare words such as `private` set the visibility of the methods after them, and calls such as
`private :name` that of the methods they name, wherever these stand. Both are read off the members
of a body here, and the items that the walk makes of such calls agree with that.
-/

namespace LocaleKeys

open Ast

namespace Outline

/-! ## What the members of a body say -/

/-- The members of the body of a class or module. -/
def membersOf (definition : Node) : List Node :=
  match definition.child? .body with
  | some b => if b.kind = .bodyStatement then b.named else [b]
  | none => definition.children.filter isStatement

/-- The visibility that a bare word such as `private` sets for the methods after it. -/
def bareVisibility? (n : Node) : Option Visibility :=
  if n.kind = .identifier then Visibility.ofName? n.text else none

/-- The visibility in force after some members of a body, that of the last bare word. -/
def cursor (earlier : List Node) : Visibility :=
  (earlier.filterMap bareVisibility?).getLast?.getD .pub

/-- The visibility that a call without a receiver is named for. -/
def calledVisibility? (n : Node) : Option Visibility :=
  match n.kind, n.child? .receiver, n.child? .method with
  | .call, none, some method => Visibility.ofName? method.text
  | _, _, _ => none

/-- The names in the argument list of a call, if it holds nothing else. A comment is something
else. -/
def argumentNames? (n : Node) : Option (List String) :=
  (n.child? .arguments).bind fun arguments => Node.plainTexts? arguments.named

/-- The visibility that a call such as `private :name` gives to the method with a name. -/
def directive? (name : String) (n : Node) : Option Visibility :=
  match calledVisibility? n, argumentNames? n with
  | some v, some names => if names.contains name then some v else none
  | _, _ => none

/-- The visibility that the last of such calls gives to the method with a name. -/
def lastDirective? (members : List Node) (name : String) : Option Visibility :=
  (members.filterMap (directive? name)).getLast?

/-- A method with the visibility that the members of its body give to its name, if they do. -/
def settled (members : List Node) (m : MethodDef) : MethodDef :=
  { m with visibility := (lastDirective? members m.name).getD m.visibility }

/-! ## Directives along the walk -/

/-- All names to which a call such as `private :name` gives a visibility. -/
def directed (n : Node) : List (String × Visibility) :=
  match calledVisibility? n, argumentNames? n with
  | some v, some names => names.map fun name => (name, v)
  | _, _ => []

theorem lookup_reverse_directed (name : String) (n : Node) :
    (directed n).reverse.lookup name = directive? name n := by
  have hnames : ∀ (v : Visibility) (names : List String),
      (names.map fun name => (name, v)).reverse.lookup name =
        if names.contains name then some v else none := by
    intro v names
    induction names with
    | nil => rfl
    | cons first names ih =>
      rw [List.map_cons, List.reverse_cons, List.lookup_append, ih, List.contains_cons,
        List.lookup_cons]
      cases names.contains name <;> cases name == first <;> rfl
  rw [directed, directive?]
  split
  · exact hnames _ _
  · rfl

/-- The last name that is the one looked for belongs to the last call that names it. -/
theorem lookup_reverse_flatMap_directed (name : String) (members : List Node) :
    (members.flatMap directed).reverse.lookup name = lastDirective? members name := by
  induction members using List.reverseRecOn with
  | nil => rfl
  | append_singleton members n ih =>
    have hlast : lastDirective? (members ++ [n]) name =
        (directive? name n).or (lastDirective? members name) := by
      rw [lastDirective?, lastDirective?, List.filterMap_append, List.getLast?_append,
        List.filterMap_cons]
      cases directive? name n <;> rfl
    rw [List.flatMap_append, List.flatMap_singleton, List.reverse_append, List.lookup_append, ih,
      lookup_reverse_directed, hlast]

theorem calledVisibility?_eq_none {n : Node} (h : n.kind ≠ .call) : calledVisibility? n = none := by
  rw [calledVisibility?]
  split
  · exact absurd ‹_› h
  · rfl

theorem directed_eq_nil {n : Node} (h : n.kind ≠ .call) : directed n = [] := by
  rw [directed, calledVisibility?_eq_none h]

/-- A definition is no name. -/
theorem plainTexts?_eq_none {ns : List Node} (h : ns.any (·.kind = .method) = true) :
    Node.plainTexts? ns = none := by
  rw [Option.eq_none_iff_forall_ne_some]
  intro names hnames
  obtain ⟨n, hn, hkind⟩ := List.any_eq_true.mp h
  have hplain := Way.isSome_plainText?_of_plainTexts? hnames n hn
  have hmethod : n.kind = .method := of_decide_eq_true hkind
  obtain ⟨t, cs⟩ := n
  simp [Node.plainText?, Node.stringLit?, show t.kind = .method from hmethod] at hplain

/-- The names to which a call gives a visibility are those of its directive. -/
theorem directed_eq (settings : Settings) {n : Node} (hkind : n.kind = .call) :
    directed n =
      match bodyCall settings n with
      | .directive names v => names.map fun name => (name, v)
      | _ => [] := by
  rw [directed, calledVisibility?, argumentNames?, bodyCall, hkind]
  cases hreceiver : n.child? .receiver with
  | some receiver => rfl
  | none =>
    cases hmethod : n.child? .method with
    | none => rfl
    | some method =>
      have hplain : ∀ b : BodyCall, b = (if settings.callbackMacros.contains method.text then
            .callback (registration n method) else .plain) →
          (match b with
            | .directive names v => names.map fun name => (name, v)
            | _ => ([] : List (String × Visibility))) = [] := by
        rintro b rfl
        split
        · rename_i h
          split at h <;> cases h
        · rfl
      cases hv : Visibility.ofName? method.text with
      | none => simp only [visibilityCall?, hv, hplain _ rfl]
      | some v =>
        cases harguments : n.child? .arguments with
        | none => simp only [visibilityCall?, hv, Option.bind_none, hplain _ rfl]
        | some arguments =>
          simp only [visibilityCall?, hv, Option.bind_some]
          by_cases hdef : arguments.named.any (·.kind = .method) = true
          · simp only [if_pos hdef, plainTexts?_eq_none hdef]
          · simp only [if_neg hdef]
            cases hnames : Node.plainTexts? arguments.named with
            | none => simp only [hplain _ rfl]
            | some names =>
              cases names with
              | nil => simp only [hplain _ rfl, List.map_nil]
              | cons name names => rfl

/-- A call sets the visibility of the methods in its arguments if it is named for one and a method
is defined there. -/
theorem bodyCall_eq_wrapper_iff {settings : Settings} {n : Node} {w : Visibility}
    (hkind : n.kind = .call) :
    bodyCall settings n = .wrapper w ↔
      calledVisibility? n = some w ∧ ∃ arguments, n.child? .arguments = some arguments ∧
        arguments.named.any (·.kind = .method) = true := by
  constructor
  · intro hbody
    obtain ⟨hreceiver, method, arguments, hmethod, harguments, hcall⟩ :=
      Way.bodyCall_visibility hbody rfl
    have hcalled : calledVisibility? n = Visibility.ofName? method.text := by
      simp only [calledVisibility?, hkind, hreceiver, hmethod]
    cases hv : Visibility.ofName? method.text with
    | none => simp [visibilityCall?, hv] at hcall
    | some v =>
      simp only [visibilityCall?, hv] at hcall
      split at hcall
      · rename_i hany
        cases hcall
        exact ⟨hcalled.trans hv, arguments, harguments, hany⟩
      · split at hcall <;> cases hcall
  · rintro ⟨hcalled, arguments, harguments, hany⟩
    simp only [calledVisibility?, hkind] at hcalled
    cases hreceiver : n.child? .receiver with
    | some receiver => simp [hreceiver] at hcalled
    | none =>
      cases hmethod : n.child? .method with
      | none => simp [hreceiver, hmethod] at hcalled
      | some method =>
        have hv : Visibility.ofName? method.text = some w := by
          simpa only [hreceiver, hmethod] using hcalled
        simp only [bodyCall, hreceiver, hmethod, harguments, visibilityCall?, hv, if_pos hany]

end Outline

namespace Item

theorem directives_append (xs ys : List Item) :
    directives (xs ++ ys) = directives xs ++ directives ys := by
  induction xs with
  | nil => rfl
  | cons x xs ih =>
    cases x with
    | directive names v => rw [List.cons_append, directives, directives, ih, List.append_assoc]
    | _ => exact ih

end Item

namespace Outline

/-- The directives that a frame adds. -/
def Frame.directives : Frame → List (String × Visibility)
  | .after items => Item.directives items
  | _ => []

namespace Visit

theorem directives_callItems (settings : Settings) (n : Node) :
    Item.directives ((Site.ofCall settings n).map .site ++ bareCallOf n) = [] := by
  have hsites : ∀ sites : List Site, Item.directives (sites.map .site) = [] := by
    intro sites
    induction sites with
    | nil => rfl
    | cons s sites ih => exact ih
  rw [Item.directives_append, hsites, bareCallOf]
  split
  · split <;> rfl
  · rfl

/-- Only calls directly in a body add directives. -/
theorem directives_frame (settings : Settings) (x : Visit) :
    (x.frame settings).directives =
      if x.standing = .code .body then directed x.node else [] := by
  obtain ⟨n, standing, v⟩ := x
  cases standing with
  | code place =>
    by_cases hcall : n.kind = .call
    · have hframe : frame settings ⟨n, .code place, v⟩ =
          (callStep v settings n (callAt settings place n)).1 := by
        simp only [frame, step, codeStep, hcall]
      rw [hframe]
      by_cases hplace : place = .body
      · subst hplace
        rw [if_pos rfl, directed_eq settings hcall, callAt, if_pos rfl]
        cases bodyCall settings n with
        | directive names w => exact List.append_nil _
        | plain => exact directives_callItems settings n
        | _ => rfl
      · rw [if_neg (by simp [hplace]), callAt, if_neg hplace]
        exact directives_callItems settings n
    · have hnone : (frame settings ⟨n, .code place, v⟩).directives = [] := by
        simp only [frame, step]
        cases hkind : n.kind with
        | call => exact absurd hkind hcall
        | method =>
          simp only [codeStep, hkind]
          cases methodOwner? place v n <;> rfl
        | identifier =>
          simp only [codeStep, hkind, Frame.directives]
          split <;> rfl
        | _ =>
          simp only [codeStep, hkind]
          rfl
      rw [hnone]
      split
      · exact (directed_eq_nil hcall).symm
      · rfl
  | _ => rfl

/-- A visit that is not to the statements of a body gives at most the directives of its node. -/
theorem directives_outline (settings : Settings) (x : Visit)
    (hx : x.standing ≠ .statements .body) :
    Item.directives (x.outline settings) =
      if x.standing = .code .body then directed x.node else [] := by
  induction x using induct settings with
  | h x ih =>
    rw [outline_eq, ← directives_frame settings]
    cases x.shape settings with
    | space _ _ hframe | callback _ _ _ hframe | owned _ _ _ _ _ hframe =>
      rw [hframe]
      rfl
    | after items hopens _ _ hframe =>
      have hnext : ∀ ys : List Visit, (∀ y ∈ ys, y ∈ x.next settings) →
          Item.directives (ys.flatMap (outline settings)) = [] := by
        intro ys hys
        induction ys with
        | nil => rfl
        | cons y ys ihys =>
          obtain ⟨hy, hys⟩ := List.forall_mem_cons.mp hys
          obtain ⟨hcode, hstatements⟩ := not_member_of_mem_next hopens hx hy
          rw [List.flatMap_cons, Item.directives_append, ih y hy hstatements, if_neg hcode,
            ihys hys]
          rfl
      rw [hframe, Frame.wrap, Item.directives_append, hnext _ fun _ hy => hy, List.append_nil]
      rfl

/-- Members of a body give the directives of their nodes. -/
theorem directives_members {settings : Settings} {ys : List Visit}
    (h : ∀ y ∈ ys, y.standing = .code .body) :
    Item.directives (ys.flatMap (outline settings)) = (ys.map (·.node)).flatMap directed := by
  induction ys with
  | nil => rfl
  | cons y ys ih =>
    obtain ⟨hy, hys⟩ := List.forall_mem_cons.mp h
    rw [List.flatMap_cons, Item.directives_append, ih hys,
      directives_outline settings y (by simp [hy]), if_pos hy, List.map_cons, List.flatMap_cons]

end Visit

end Outline

end LocaleKeys

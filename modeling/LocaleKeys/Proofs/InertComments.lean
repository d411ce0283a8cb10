import LocaleKeys.Proofs.PlainMode
import LocaleKeys.Proofs.Uncommented

/-!
# Proofs: comments have no say

A file without its comments is resolved as the file with them, as long as no comment hides what a
call says. The walk leaves out the comments and otherwise visits the same nodes in the same way.
The sites that it finds may differ in values that nobody tells apart.
-/

namespace LocaleKeys

open Ast
open Ast.Node (commentsApart uncommented uncommentedAll)

/-! ## Calls in a body -/

namespace Outline

/-- Do comments keep a call such as `private :name` from naming methods? -/
def hidesDirective (call : Node) : Bool :=
  (call.child? .receiver).isNone &&
    (call.child? .method).any (fun method => (Visibility.ofName? method.text).isSome) &&
    (Arguments.nodesOf call).any (!·.isComment) && Node.hidesTexts (Arguments.nodesOf call)

/-- Do comments hide what a call says? It says something by its options if it is a site or registers
a callback. -/
def hides (settings : Settings) (n : Node) : Bool :=
  n.kind = .call &&
    (hidesDirective n ||
      (!(Site.ofCall settings n).isEmpty || (bodyCall settings n).registers) && Arguments.hides n)

variable {settings : Settings} {n : Node}

theorem visibilityCall?_uncommented {method : Node} {arguments : Option Node}
    (h : ∀ a, arguments = some a → a.everywhere commentsApart = true)
    (hhides : (Visibility.ofName? method.text).isSome = true → ∀ a, arguments = some a →
      (a.named.any (!·.isComment) && Node.hidesTexts a.named) = false) :
    visibilityCall? method.uncommented (arguments.map uncommented) =
      visibilityCall? method arguments := by
  unfold visibilityCall?
  rw [Node.text_uncommented]
  cases hv : Visibility.ofName? method.text with
  | none => rfl
  | some v =>
    cases arguments with
    | none => rfl
    | some a =>
      have hnames := hhides (by rw [hv]; rfl) a rfl
      have hmethod : a.uncommented.named.any (·.kind = .method) =
          a.named.any (·.kind = .method) := by
        rw [Node.named_uncommented]
        refine Node.any_uncommentedAll (fun c => by rw [Node.kind_uncommented]) fun c _ hc => ?_
        rw [Node.kind_of_isComment hc]
        rfl
      simp only [Option.map_some, hmethod]
      split
      · rfl
      · rw [Node.named_uncommented,
          Node.plainTexts?_uncommentedAll (Node.everywhere_named (h a rfl))]
        by_cases hsome : a.named.any (!·.isComment) = true
        · rw [hsome, Bool.true_and] at hnames
          rw [Node.plainTexts?_of_not_hidesTexts hnames]
        · -- nothing but comments: no names either way
          have hfilter : a.named.filter (!·.isComment) = [] := by simpa using hsome
          rw [hfilter]
          cases hnamed : a.named with
          | nil => rfl
          | cons c cs =>
            have hc : c.isComment = true := by
              rw [hnamed] at hsome
              by_contra hnot
              exact hsome (by simp [hnot])
            have hnone : Node.plainTexts? (c :: cs) = none :=
              Node.plainTexts?_of_any_isComment (by rw [List.any_cons, hc]; rfl)
            rw [hnone]
            rfl

theorem blockTest_uncommentedAll (h : n.everywhere commentsApart = true) :
    blockTest (uncommentedAll n.children) = blockTest n.children := by
  have hany : (uncommentedAll n.children).any (Node.plays .block) =
      n.children.any (Node.plays .block) :=
    Node.any_uncommentedAll (Node.plays_uncommented .block) fun c hc hcomment =>
      Node.plays_eq_false h hc hcomment .block
  funext c
  rw [blockTest, blockTest, hany]

theorem blockTest_uncommented (cs : List Node) (c : Node) :
    blockTest cs c.uncommented = blockTest cs c := by
  simp only [blockTest, Node.plays_uncommented, Node.isNamed_uncommented, Node.kind_uncommented]

theorem blockTest_eq_false (h : n.everywhere commentsApart = true) {c : Node}
    (hc : c ∈ n.children) (hcomment : c.isComment = true) : blockTest n.children c = false := by
  have hkind : c.kind.isBlock = false := by rw [Node.kind_of_isComment hcomment]; rfl
  rw [blockTest, Node.plays_eq_false h hc hcomment, hkind, Bool.and_false, ite_self]

theorem registration_uncommented (method : Node) (h : n.everywhere commentsApart = true)
    (hhides : Arguments.hides n = false) :
    registration n.uncommented method.uncommented = registration n method := by
  have hpositional := Arguments.positional_uncommented h hhides
  have hoptions := Arguments.options_uncommented h hhides
  have hmethods : (Arguments.ofCall n.uncommented).positional.filterMap Node.plainText? =
      (Arguments.ofCall n).positional.filterMap Node.plainText? := by
    rw [hpositional, List.filterMap_map]
    exact List.filterMap_congr fun a ha =>
      Node.plainText?_uncommented (Arguments.everywhere_of_mem_positional h ha)
  have hlambda : (Arguments.ofCall n.uncommented).positional.any (·.kind = .lambda) =
      (Arguments.ofCall n).positional.any (·.kind = .lambda) := by
    rw [hpositional, List.any_map]
    simp only [Function.comp_def, Node.kind_uncommented]
  have hblock : n.uncommented.children.any (blockTest n.uncommented.children) =
      n.children.any (blockTest n.children) := by
    rw [Node.children_uncommented, blockTest_uncommentedAll h]
    exact Node.any_uncommentedAll (blockTest_uncommented _) fun c hc => blockTest_eq_false h hc
  have hget : ∀ name ∈ Options.listed, (Arguments.ofCall n.uncommented).options.get? name =
      (Arguments.ofCall n).options.get? name := by
    intro name hname
    rw [← Options.get?_blurred_of_mem hname, hoptions, Options.get?_blurred_of_mem hname]
  rw [registration, registration]
  simp only [hmethods, hlambda, hblock, hget "only" (by decide), hget "except" (by decide),
    Node.text_uncommented, Node.line_uncommented]

theorem bodyCall_uncommented (h : n.everywhere commentsApart = true)
    (hdirective : hidesDirective n = false)
    (hoptions : (bodyCall settings n).registers = true → Arguments.hides n = false) :
    bodyCall settings n.uncommented = bodyCall settings n := by
  rw [bodyCall] at hoptions
  rw [bodyCall, bodyCall]
  simp only [Node.child?_uncommented h]
  cases hreceiver : n.child? .receiver with
  | some receiver => rfl
  | none =>
    cases hmethod : n.child? .method with
    | none => rfl
    | some method =>
      have hvisibility : visibilityCall? method.uncommented
          ((n.child? .arguments).map uncommented) =
            visibilityCall? method (n.child? .arguments) := by
        refine visibilityCall?_uncommented (fun a ha => Node.everywhere_child? h ha) ?_
        intro hname a ha
        simpa [hidesDirective, hreceiver, hmethod, hname, Arguments.nodesOf, ha] using hdirective
      simp only [hreceiver, hmethod] at hoptions
      simp only [Option.map_none, Option.map_some, hvisibility, Node.text_uncommented]
      cases hcall : visibilityCall? method (n.child? .arguments) with
      | some b => rfl
      | none =>
        rw [hcall] at hoptions
        simp only at hoptions ⊢
        split
        next hmacro =>
          rw [if_pos hmacro] at hoptions
          rw [registration_uncommented method h (hoptions rfl)]
        next => rfl

/-! ## Visits without comments -/

namespace Visit

/-- A visit to a node without its comments. -/
def uncommented (x : Visit) : Visit := { x with node := x.node.uncommented }

/-- A visit to code in which no comment counts. -/
structure Ready (settings : Settings) (x : Visit) : Prop where
  apart : x.node.everywhere commentsApart = true
  shown : x.node.everywhere (!hides settings ·) = true
  arguments : x.standing = .arguments → Arguments.hidesOptions false x.node.named = false

/-- The second visits are the first ones without comments. -/
inductive Sheds (settings : Settings) : List Visit → List Visit → Prop where
  | nil : Sheds settings [] []
  | drop {c : Node} {place : Place} {v : Visibility} {xs ys : List Visit}
      (hc : c.isComment = true) (h : Sheds settings xs ys) :
      Sheds settings (⟨c, .code place, v⟩ :: xs) ys
  | keep {x : Visit} {xs ys : List Visit} (hx : x.Ready settings) (h : Sheds settings xs ys) :
      Sheds settings (x :: xs) (x.uncommented :: ys)

variable {settings : Settings} {x : Visit} {test : Node → Bool} {cs : List Node}

theorem Ready.child (h : x.Ready settings) {c : Node} (hc : c ∈ x.node.children)
    {standing : Standing} (hstanding : standing ≠ .arguments) (v : Visibility) :
    Ready settings ⟨c, standing, v⟩ :=
  ⟨Node.everywhere_child h.apart hc, Node.everywhere_child h.shown hc,
    fun heq => absurd heq hstanding⟩

theorem Ready.inside (h : x.Ready settings) {c : Node} (hc : c ∈ x.node.children)
    (v : Visibility) : Ready settings (inside v c) :=
  h.child hc (by simp) v

theorem Sheds.append {xs ys xs' ys' : List Visit} (h : Sheds settings xs ys)
    (h' : Sheds settings xs' ys') : Sheds settings (xs ++ xs') (ys ++ ys') := by
  induction h with
  | nil => exact h'
  | drop hc _ ih => exact .drop hc ih
  | keep hx _ ih => exact .keep hx ih

theorem sheds_each {v : Node → Visibility} (htest : ∀ n, test n.uncommented = test n)
    (hv : ∀ n, v n.uncommented = v n)
    (hcs : ∀ c ∈ cs, (Visit.inside (v c) c).Ready settings) :
    Sheds settings (each test (fun c => Visit.inside (v c) c) cs)
      (each test (fun c => Visit.inside (v c) c) (uncommentedAll cs)) := by
  induction cs with
  | nil => exact .nil
  | cons c cs ih =>
    obtain ⟨hc, hcs⟩ := List.forall_mem_cons.mp hcs
    rw [uncommentedAll, each_cons]
    by_cases hcomment : c.isComment = true
    · rw [if_pos hcomment]
      split
      · exact .drop hcomment (ih hcs)
      · exact ih hcs
    · rw [if_neg hcomment, each_cons, htest, hv]
      split
      · exact .keep hc (ih hcs)
      · exact ih hcs

theorem sheds_first {enter : Node → Visit} (htest : ∀ n, test n.uncommented = test n)
    (henter : ∀ n, enter n.uncommented = (enter n).uncommented)
    (hcomments : ∀ c ∈ cs, c.isComment = true → test c = false)
    (hfound : ∀ c, cs.find? test = some c → (enter c).Ready settings) :
    Sheds settings (first test enter cs) (first test enter (uncommentedAll cs)) := by
  rw [first, first, Node.find?_uncommentedAll htest hcomments]
  cases hfind : cs.find? test with
  | none => exact .nil
  | some c =>
    rw [Option.map_some, Option.map_some, Option.map_some, henter]
    exact .keep (hfound c hfind) .nil

theorem sheds_members {place : Place} (htest : ∀ n, test n.uncommented = test n) {v : Visibility}
    (hcs : ∀ c ∈ cs, ∀ v, Ready settings ⟨c, .code place, v⟩) :
    Sheds settings (members place test v cs) (members place test v (uncommentedAll cs)) := by
  induction cs generalizing v with
  | nil => exact .nil
  | cons c cs ih =>
    obtain ⟨hc, hcs⟩ := List.forall_mem_cons.mp hcs
    rw [uncommentedAll, members]
    by_cases hcomment : c.isComment = true
    · have hafter : visibilityAfter place v c = v := by
        rw [visibilityAfter, Node.kind_of_isComment hcomment]
        simp
      rw [if_pos hcomment, hafter]
      split
      · exact .drop hcomment (ih hcs)
      · exact ih hcs
    · have hafter : visibilityAfter place v c.uncommented = visibilityAfter place v c := by
        rw [visibilityAfter, visibilityAfter, Node.kind_uncommented, Node.text_uncommented]
      rw [if_neg hcomment, members, htest, hafter]
      split
      · exact .keep (hc v) (ih hcs)
      · exact ih hcs

theorem sheds_callbackArguments {seen : Bool}
    (hoptions : Arguments.hidesOptions seen (cs.filter Node.isNamed) = false)
    (hcs : ∀ c ∈ cs, ∀ standing, standing ≠ .arguments → Ready settings ⟨c, standing, .pub⟩) :
    Sheds settings (callbackArguments seen cs) (callbackArguments seen (uncommentedAll cs)) := by
  induction cs generalizing seen with
  | nil => exact .nil
  | cons c cs ih =>
    obtain ⟨hc, hcs⟩ := List.forall_mem_cons.mp hcs
    rw [uncommentedAll, callbackArguments]
    by_cases hnamed : c.isNamed = true
    · rw [List.filter_cons, if_pos hnamed, Arguments.hidesOptions, Bool.or_eq_false_iff] at hoptions
      obtain ⟨hlast, hrest⟩ := hoptions
      by_cases hcomment : c.isComment = true
      · rw [Arguments.isPositional_of_isComment hcomment, Bool.or_false] at hrest
        rw [if_pos hcomment, Arguments.isPositional_of_isComment hcomment, Bool.and_false]
        exact ih hrest hcs
      · have hcode : (Visit.inside .pub c).Ready settings := hc (.code .inside) (by simp)
        have hloose : Ready settings ⟨c, .loose, .pub⟩ := hc .loose (by simp)
        have htext : c.uncommented.plainText? = c.plainText? :=
          Node.plainText?_uncommented hloose.apart
        rw [if_neg hcomment, callbackArguments, Node.isNamed_uncommented, Node.kind_uncommented,
          Node.filter_uncommentedAll Node.isNamed_uncommented,
          Arguments.isPositional_congr (Arguments.givesOptions_uncommentedAll hlast), htext, hnamed,
          Bool.true_and]
        cases hpositional : Arguments.isPositional seen c.kind (cs.filter Node.isNamed) with
        | false =>
          rw [hpositional, Bool.or_false] at hrest
          exact ih hrest hcs
        | true =>
          rw [hpositional, Bool.or_true] at hrest
          refine Sheds.append ?_ (ih hrest hcs)
          split
          · exact .keep hcode .nil
          · split
            · exact .nil
            · exact .keep hloose .nil
    · have hunnamed : c.isNamed = false := Bool.eq_false_iff.mpr hnamed
      rw [List.filter_cons, if_neg hnamed] at hoptions
      rw [hunnamed, Bool.false_and]
      by_cases hcomment : c.isComment = true
      · rw [if_pos hcomment]
        exact ih hoptions hcs
      · rw [if_neg hcomment, callbackArguments, Node.isNamed_uncommented, hunnamed, Bool.false_and]
        exact ih hoptions hcs

theorem hasBody_uncommentedAll {n : Node} (h : n.everywhere commentsApart = true) :
    hasBody (uncommentedAll n.children) = hasBody n.children :=
  Node.any_uncommentedAll (Node.plays_uncommented .body) fun _ hc hcomment =>
    Node.plays_eq_false h hc hcomment .body

theorem isStatement_uncommented (n : Node) : isStatement n.uncommented = isStatement n := by
  simp only [isStatement, Node.isNamed_uncommented, Node.kind_uncommented, Node.plays_uncommented]

theorem isTarget_uncommented (n : Node) : isTarget n.uncommented = isTarget n := by
  simp only [isTarget, Node.kind_uncommented, Node.plays_uncommented]

/-- A child that plays a role is visited with its comments and without. -/
theorem Ready.sheds_role (h : x.Ready settings) (role : Role) {enter : Node → Visit}
    (henter : ∀ n, enter n.uncommented = (enter n).uncommented)
    (hfound : ∀ c, x.node.child? role = some c → (enter c).Ready settings) :
    Sheds settings (first (Node.plays role) enter x.node.children)
      (first (Node.plays role) enter (uncommentedAll x.node.children)) :=
  sheds_first (Node.plays_uncommented role) henter
    (fun _ hc hcomment => Node.plays_eq_false h.apart hc hcomment role) hfound

theorem Ready.sheds_ofBody (h : x.Ready settings) (place : Place) :
    Sheds settings (ofBody place x.node.children) (ofBody place x.uncommented.node.children) := by
  have hchildren : x.uncommented.node.children = uncommentedAll x.node.children :=
    x.node.children_uncommented
  rw [ofBody, ofBody, hchildren, hasBody_uncommentedAll h.apart]
  split
  · refine h.sheds_role .body (fun n => ?_) fun c hc => h.child (Node.mem_of_child? hc) ?_ _
    · rw [Node.kind_uncommented]
      rfl
    · split <;> simp
  · exact sheds_members isStatement_uncommented fun _ hc v => h.child hc (by simp) v

theorem Ready.sheds_ofMethod (h : x.Ready settings) :
    Sheds settings (ofMethod x.node.children) (ofMethod x.uncommented.node.children) := by
  have hchildren : x.uncommented.node.children = uncommentedAll x.node.children :=
    x.node.children_uncommented
  rw [ofMethod, ofMethod, hchildren, hasBody_uncommentedAll h.apart]
  split
  · exact h.sheds_role .body (fun _ => rfl) fun _ hc => h.inside (Node.mem_of_child? hc) _
  · exact sheds_each isStatement_uncommented (fun _ => rfl) fun c hc => h.inside hc _

/-- A call that is visited says what it says without its comments: the names of methods, and the
options if it is a site or registers a callback. -/
theorem Ready.hides_call (h : x.Ready settings) (hkind : x.node.kind = .call) :
    hidesDirective x.node = false ∧
      (((Site.ofCall settings x.node).isEmpty = false ∨
        (bodyCall settings x.node).registers = true) → Arguments.hides x.node = false) := by
  have hshown := Node.everywhere_self h.shown
  simp only [hides, hkind, decide_true, Bool.true_and, Bool.not_eq_true', Bool.or_eq_false_iff,
    Bool.and_eq_false_iff, Bool.not_eq_false'] at hshown
  refine ⟨hshown.1, fun hsays => hshown.2.resolve_left fun hsilent => ?_⟩
  rcases hsays with hsite | hregisters
  · rw [hsilent.1] at hsite
    cases hsite
  · rw [hsilent.2] at hregisters
    cases hregisters

theorem Ready.callAt_uncommented (h : x.Ready settings) (hkind : x.node.kind = .call)
    (place : Place) : callAt settings place x.node.uncommented = callAt settings place x.node := by
  obtain ⟨hdirective, hoptions⟩ := h.hides_call hkind
  rw [callAt, callAt, bodyCall_uncommented h.apart hdirective fun hregisters =>
    hoptions (Or.inr hregisters)]

theorem Ready.sheds_callStep (h : x.Ready settings) (hkind : x.node.kind = .call) {place : Place}
    (v : Visibility) :
    Sheds settings (callStep v settings x.node (callAt settings place x.node)).2
      (callStep v settings x.node.uncommented (callAt settings place x.node)).2 := by
  cases hcall : callAt settings place x.node with
  | directive names w => exact .nil
  | wrapper w =>
    simp only [callStep, Node.children_uncommented]
    exact h.sheds_role .arguments (fun _ => rfl) fun _ hc =>
      h.child (Node.mem_of_child? hc) (by simp) v
  | callback r =>
    have hbody := (callAt_ne_plain hcall rfl).2
    have hoptions : Arguments.hides x.node = false :=
      (h.hides_call hkind).2 (Or.inr (by rw [hbody]; rfl))
    simp only [callStep, Node.children_uncommented, blockTest_uncommentedAll h.apart]
    refine Sheds.append ?_ ?_
    · -- arguments are taken by their positions, which is why none may be hidden
      refine h.sheds_role .arguments (fun _ => rfl) fun c hc => ?_
      refine ⟨Node.everywhere_child? h.apart hc, Node.everywhere_child? h.shown hc, ?_⟩
      intro _
      rw [Arguments.hides, Bool.or_eq_false_iff, Arguments.nodesOf, hc] at hoptions
      exact hoptions.1
    · exact sheds_first (blockTest_uncommented _) (fun _ => rfl)
        (fun _ hc => blockTest_eq_false h.apart hc) fun _ hc =>
          h.inside (List.mem_of_find?_eq_some hc) _
  | plain =>
    simp only [callStep, Node.children_uncommented]
    refine sheds_each (fun n => ?_) (fun _ => rfl) fun c hc => h.inside hc v
    rw [Node.isNamed_uncommented, Node.plays_uncommented]

theorem methodOwner?_uncommented {n : Node} (h : n.everywhere commentsApart = true) (place : Place)
    (v : Visibility) : methodOwner? place v n.uncommented = methodOwner? place v n := by
  rw [methodOwner?, methodOwner?, Node.child?_uncommented h, Node.line_uncommented,
    Node.tag_uncommented]
  cases n.child? .name with
  | none => rfl
  | some name => simp only [Option.map_some, Node.text_uncommented]

theorem Ready.sheds_code {n : Node} {place : Place} {v : Visibility}
    (h : Ready settings ⟨n, .code place, v⟩) :
    Sheds settings (codeStep settings place v n).2
      (codeStep settings place v n.uncommented).2 := by
  cases hkind : n.kind with
  | call =>
    simp only [codeStep, Node.kind_uncommented, hkind, h.callAt_uncommented hkind]
    exact h.sheds_callStep hkind v
  | classDef | moduleDef =>
    simp only [codeStep, Node.kind_uncommented, hkind]
    exact h.sheds_ofBody .body
  | singletonClass =>
    simp only [codeStep, Node.kind_uncommented, hkind]
    exact h.sheds_ofBody .singletonBody
  | method =>
    simp only [codeStep, Node.kind_uncommented, hkind, methodOwner?_uncommented h.apart]
    cases methodOwner? place v n with
    | none => exact .nil
    | some owner => exact h.sheds_ofMethod
  | singletonMethod =>
    simp only [codeStep, Node.kind_uncommented, hkind]
    exact h.sheds_ofMethod
  | assignment | operatorAssignment =>
    simp only [codeStep, Node.kind_uncommented, hkind, Node.children_uncommented]
    refine Sheds.append ?_ ?_
    · refine sheds_first isTarget_uncommented (fun _ => rfl) (fun c hc hcomment => ?_)
        fun _ hc => h.inside (List.mem_of_find?_eq_some hc) v
      rw [isTarget, Node.plays_eq_false h.apart hc hcomment]
      rfl
    · exact h.sheds_role .right (fun _ => rfl) fun _ hc => h.inside (Node.mem_of_child? hc) v
  | identifier | methodParameters | parameters | blockParameters | lambdaParameters
  | exceptionVariable | comment =>
    simp only [codeStep, Node.kind_uncommented, hkind]
    exact .nil
  | _ =>
    simp only [codeStep, Node.kind_uncommented, hkind, Node.children_uncommented]
    exact sheds_each Node.isNamed_uncommented (fun _ => rfl) fun c hc => h.inside hc v

/-- The walk goes on to the same nodes without their comments, less the comments. -/
theorem Ready.sheds_next (h : x.Ready settings) :
    Sheds settings (x.next settings) (x.uncommented.next settings) := by
  obtain ⟨n, standing, v⟩ := x
  cases standing with
  | code place => exact h.sheds_code
  | loose => exact .keep ⟨h.apart, h.shown, by simp [Visit.inside]⟩ .nil
  | statements place =>
    simp only [next, step, uncommented, Node.children_uncommented]
    exact sheds_members Node.isNamed_uncommented fun c hc v => h.child hc (by simp) v
  | wrapped w =>
    simp only [next, step, uncommented, Node.children_uncommented]
    exact sheds_each Node.isNamed_uncommented (fun n => by rw [Node.kind_uncommented])
      fun c hc => h.inside hc _
  | arguments =>
    simp only [next, step, uncommented, Node.children_uncommented]
    exact sheds_callbackArguments (h.arguments rfl) fun c hc standing hstanding =>
      h.child hc hstanding .pub

end Visit

/-! ## Outlines without comments -/

/-- A frame with its sites blurred. -/
def Frame.blurred : Frame → Frame
  | .after items => .after (Item.blurredAll items)
  | f => f

theorem Frame.blurredAll_wrap (f : Frame) (inner : List Item) :
    Item.blurredAll (f.wrap inner) = f.blurred.wrap (Item.blurredAll inner) := by
  cases f with
  | space s => rfl
  | owned owner => rfl
  | after items => simp only [wrap, blurred, Item.blurredAll_eq, List.map_append]

theorem spaceOf_uncommented (settings : Settings) {n : Node}
    (h : n.everywhere commentsApart = true) :
    spaceOf settings n.uncommented = spaceOf settings n := by
  have hnames : ((n.uncommented.child? .name).map Node.constantPath).getD [] =
      ((n.child? .name).map Node.constantPath).getD [] := by
    rw [Node.child?_uncommented h]
    cases hc : n.child? .name with
    | none => rfl
    | some name => exact name.constantPath_uncommented (Node.everywhere_child? h hc)
  rw [spaceOf, spaceOf, hnames, Node.kind_uncommented, Node.line_uncommented]

theorem bareCallOf_uncommented {n : Node} (h : n.everywhere commentsApart = true) :
    bareCallOf n.uncommented = bareCallOf n := by
  unfold bareCallOf
  rw [Node.child?_uncommented h, Node.child?_uncommented h]
  cases n.child? .receiver with
  | some receiver => rfl
  | none =>
    cases n.child? .method with
    | none => rfl
    | some method =>
      simp only [Option.map_none, Option.map_some, Node.kind_uncommented, Node.text_uncommented,
        Node.line_uncommented]

theorem blurredAll_callItems_uncommented {n : Node} (h : n.everywhere commentsApart = true)
    (hoptions : (Site.ofCall settings n).isEmpty = false → Arguments.hides n = false) :
    Item.blurredAll ((Site.ofCall settings n.uncommented).map .site ++ bareCallOf n.uncommented) =
      Item.blurredAll ((Site.ofCall settings n).map .site ++ bareCallOf n) := by
  have hsites : ∀ sites : List Site, (sites.map Item.site).map Item.blurred =
      (sites.map Site.blurred).map Item.site := by
    intro sites
    rw [List.map_map, List.map_map]
    rfl
  rw [Item.blurredAll_eq, Item.blurredAll_eq, List.map_append, List.map_append, hsites, hsites,
    Site.blurred_ofCall_uncommented h hoptions, bareCallOf_uncommented h]

namespace Visit

theorem Ready.blurred_codeStep {n : Node} {place : Place} {v : Visibility}
    (h : Ready settings ⟨n, .code place, v⟩) :
    (codeStep settings place v n.uncommented).1.blurred =
      (codeStep settings place v n).1.blurred := by
  cases hkind : n.kind with
  | call =>
    simp only [codeStep, Node.kind_uncommented, hkind, h.callAt_uncommented hkind]
    cases callAt settings place n with
    | plain =>
      have hoptions := (h.hides_call hkind).2
      exact congrArg Frame.after
        (blurredAll_callItems_uncommented h.apart fun hsite => hoptions (Or.inl hsite))
    | wrapper | directive | callback => rfl
  | classDef | moduleDef =>
    simp only [codeStep, Node.kind_uncommented, hkind, spaceOf_uncommented settings h.apart]
  | method =>
    simp only [codeStep, Node.kind_uncommented, hkind, methodOwner?_uncommented h.apart]
    cases methodOwner? place v n <;> rfl
  | identifier =>
    simp only [codeStep, Node.kind_uncommented, hkind, Node.text_uncommented, Node.line_uncommented]
  | _ => simp only [codeStep, Node.kind_uncommented, hkind]

theorem Ready.blurred_frame {x : Visit} (h : x.Ready settings) :
    (x.uncommented.frame settings).blurred = (x.frame settings).blurred := by
  obtain ⟨n, standing, v⟩ := x
  cases standing with
  | code place => exact h.blurred_codeStep
  | loose | statements | wrapped | arguments => rfl

theorem outline_of_isComment {c : Node} (hc : c.isComment = true) (place : Place)
    (v : Visibility) : outline settings ⟨c, .code place, v⟩ = [] := by
  rw [outline_eq]
  simp [frame, next, step, codeStep, Node.kind_of_isComment hc, Frame.wrap]

theorem Sheds.blurredAll_flatMap {xs ys : List Visit} (h : Sheds settings xs ys)
    (hxs : ∀ x ∈ xs, x.Ready settings →
      Item.blurredAll (x.uncommented.outline settings) = Item.blurredAll (x.outline settings)) :
    Item.blurredAll (ys.flatMap (outline settings)) =
      Item.blurredAll (xs.flatMap (outline settings)) := by
  induction h with
  | nil => rfl
  | drop hc _ ih =>
    rw [List.flatMap_cons, outline_of_isComment hc, List.nil_append]
    exact ih fun x hx => hxs x (List.mem_cons_of_mem _ hx)
  | keep hx _ ih =>
    have htail := ih fun y hy => hxs y (List.mem_cons_of_mem _ hy)
    rw [Item.blurredAll_eq, Item.blurredAll_eq] at htail ⊢
    rw [List.flatMap_cons, List.flatMap_cons, List.map_append, List.map_append, htail,
      ← Item.blurredAll_eq, hxs _ List.mem_cons_self hx, Item.blurredAll_eq]

/-- The outline of code is the same without its comments, but for values that nobody tells apart. -/
theorem Ready.blurredAll_outline {x : Visit} (h : x.Ready settings) :
    Item.blurredAll (x.uncommented.outline settings) = Item.blurredAll (x.outline settings) := by
  induction x using induct settings with
  | h x ih =>
    have hnext := h.sheds_next.blurredAll_flatMap fun y hy hready => ih y hy hready
    rw [outline_eq settings x.uncommented, outline_eq settings x, Frame.blurredAll_wrap,
      Frame.blurredAll_wrap, h.blurred_frame, hnext]

end Visit

end Outline

namespace Resolve

/-- A file without its comments gives the same uses of keys, or the same fault, if its comments play
no roles, are no parts of strings and hide nothing that a call says. -/
theorem outcome_uncommented (settings : Settings) (d : Document) (root : Node)
    (hapart : root.everywhere Node.commentsApart = true)
    (hshown : root.everywhere (!Outline.hides settings ·) = true) :
    outcome settings d (Index.ofTree settings root.uncommented) =
      outcome settings d (Index.ofTree settings root) := by
  have hready : (Outline.Visit.file root).Ready settings :=
    ⟨hapart, hshown, by simp [Outline.Visit.file]⟩
  have houtline : Item.blurredAll (Outline.ofTree settings root.uncommented) =
      Item.blurredAll (Outline.ofTree settings root) := hready.blurredAll_outline
  rw [Index.ofTree, Index.ofTree, ← outcome_blurredAll, houtline, outcome_blurredAll]

open Scan (quoted callOf optionOf actionOf controllerOf)

/-- A comment. -/
def note : Node := ⟨{ kind := .comment, text := "# note" }, []⟩

/-- A symbol. -/
def symbol (text : String) : Node := ⟨{ kind := .simpleSymbol, text }, []⟩

/-- An array literal. -/
def arrayOf (elements : List Node) : Node := ⟨{ kind := .array }, elements⟩

/-- The keys that a file uses. -/
def keysIn (root : Node) : Except Fault (List String) :=
  (outcome {} (.ofText "events.rb" "") (Index.ofTree {} root)).map (List.map (·.key))

/-- A controller with comments between its members, between arguments and options, and in an array
that is no scope. -/
def notedController : Node :=
  controllerOf
    [note,
      callOf "before_action" 2
        [note, symbol ":load", note, optionOf "only" (arrayOf [symbol ":show"])],
      actionOf "show"
        [note,
          callOf "t" 5 [quoted ".title", note, optionOf "default" (arrayOf [quoted "A", note])],
          callOf "t" 6 [note, quoted "home", note,
            ⟨{ kind := .hash }, [note, optionOf "scope" (quoted "menu"), note]⟩]],
      callOf "private" 8 [symbol ":load"],
      note,
      actionOf "load" [callOf "t" 9 [quoted ".missing"], note]]

theorem outcome_uncommented_events :
    notedController.everywhere Node.commentsApart = true ∧
      notedController.everywhere (!Outline.hides {} ·) = true ∧
      keysIn notedController = .ok ["events.show.title", "menu.home", "events.show.missing"] ∧
      outcome {} (.ofText "events.rb" "") (Index.ofTree {} notedController.uncommented) =
        outcome {} (.ofText "events.rb" "") (Index.ofTree {} notedController) := by
  have hapart : notedController.everywhere Node.commentsApart = true := by decide +kernel
  have hshown : notedController.everywhere (!Outline.hides {} ·) = true := by decide +kernel
  exact ⟨hapart, hshown, by decide +kernel, outcome_uncommented {} _ _ hapart hshown⟩

/-- A lookup with a comment after the hash literal that gives its scope. -/
def noteAfterHash : Node :=
  controllerOf [callOf "t" 2
    [quoted "title", ⟨{ kind := .hash }, [optionOf "scope" (quoted "events")]⟩, note]]

/-- A lookup with a comment in the array that is its scope. -/
def noteInScope : Node :=
  controllerOf [callOf "t" 2
    [quoted "title", optionOf "scope" (arrayOf [quoted "events", note, quoted "index"])]]

/-- A comment between the names of two methods that are made private. -/
def noteAfterPrivate : Node :=
  controllerOf
    [actionOf "show" [callOf "t" 2 [quoted ".title"]],
      callOf "private" 3 [symbol ":load", note, symbol ":show"]]

/-- Comments that play no roles and are no parts of strings can still count. -/
theorem comments_count :
    (∀ root ∈ [noteAfterHash, noteInScope, noteAfterPrivate],
        root.everywhere Node.commentsApart = true) ∧
      keysIn noteAfterHash = .ok ["title"] ∧
      keysIn noteAfterHash.uncommented = .ok ["events.title"] ∧
      keysIn noteInScope = .ok [] ∧
      keysIn noteInScope.uncommented = .ok ["events.index.title"] ∧
      keysIn noteAfterPrivate = .ok ["events.show.title"] ∧
      keysIn noteAfterPrivate.uncommented = .ok [] := by
  decide +kernel

end Resolve

end LocaleKeys

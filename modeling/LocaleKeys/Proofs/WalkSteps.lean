import LocaleKeys.Proofs.Walk

/-!
# Proofs: the steps of the walk

What each kind of visit adds to the outline, and which visits may follow it. The proofs about
indexes split on these cases and not on the kinds of nodes.
-/

namespace LocaleKeys.Outline

open Ast

namespace Visit

/-! ## Kinds of visits -/

/-- Is a visit to a class or module, which opens a namespace? -/
def opens (x : Visit) : Bool :=
  match x.standing with
  | .code _ => x.node.kind = .classDef || x.node.kind = .moduleDef
  | _ => false

/-- Is a node a definition: a class, a module, a method or an object's own class? -/
def isDefinition (n : Node) : Bool :=
  n.kind = .method || n.kind = .singletonMethod || n.kind = .singletonClass ||
    n.kind = .classDef || n.kind = .moduleDef

/-- Is a visit to the code of a definition? -/
def defines (x : Visit) : Bool :=
  match x.standing with
  | .code _ => isDefinition x.node
  | _ => false

/-- The callback that a call directly in a body registers. -/
def registration? (settings : Settings) (x : Visit) : Option Registration :=
  match x.standing with
  | .code .body =>
    match x.node.kind, bodyCall settings x.node with
    | .call, .callback r => some r
    | _, _ => none
  | _ => none

/-- The definition that a visit to a method makes. -/
def definition? (x : Visit) : Option MethodDef :=
  (x.node.child? .name).map fun name =>
    ⟨name.text, x.visibility, x.node.line, x.node.tag.start⟩

theorem registration?_eq_none {settings : Settings} {x : Visit} (h : x.standing ≠ .code .body) :
    x.registration? settings = none := by
  unfold registration?
  split
  · exact absurd ‹_› h
  · rfl

/-- Only calls register callbacks. -/
theorem registration?_of_not_call {settings : Settings} {x : Visit} (h : x.node.kind ≠ .call) :
    x.registration? settings = none := by
  unfold registration?
  split
  · split
    · exact absurd ‹_› h
    · rfl
  · rfl

/-- What a visit adds to the outline, by its kind. -/
inductive Shape (settings : Settings) (x : Visit) : Prop where
  /-- A class or module. -/
  | space (hopens : x.opens = true) (hregistration : x.registration? settings = none)
      (hframe : x.frame settings = .space (spaceOf settings x.node))
  /-- A call that registers a callback. -/
  | callback (r : Registration) (hopens : x.opens = false)
      (hregistration : x.registration? settings = some r)
      (hframe : x.frame settings = .owned (.callback r))
  /-- Any other code with an owner. -/
  | owned (owner : Owner) (hopens : x.opens = false)
      (hregistration : x.registration? settings = none) (howner : ∀ r, owner ≠ .callback r)
      (hcode : x.defines = true ∨ x.standing = .loose) (hframe : x.frame settings = .owned owner)
  /-- Code that has the owner of the code around it. -/
  | after (items : List Item) (hopens : x.opens = false)
      (hregistration : x.registration? settings = none) (hflat : ∀ i ∈ items, i.isFlat = true)
      (hframe : x.frame settings = .after items)

theorem frame_statements {settings : Settings} {x : Visit} {place : Place}
    (h : x.standing = .statements place) : x.frame settings = .after [] := by
  obtain ⟨n, standing, v⟩ := x
  cases h
  rfl

theorem frame_wrapped {settings : Settings} {x : Visit} {w : Visibility}
    (h : x.standing = .wrapped w) : x.frame settings = .after [] := by
  obtain ⟨n, standing, v⟩ := x
  cases h
  rfl

theorem frame_arguments {settings : Settings} {x : Visit} (h : x.standing = .arguments) :
    x.frame settings = .after [] := by
  obtain ⟨n, standing, v⟩ := x
  cases h
  rfl

theorem frame_loose {settings : Settings} {x : Visit} (h : x.standing = .loose) :
    x.frame settings = .owned .nobody := by
  obtain ⟨n, standing, v⟩ := x
  cases h
  rfl

theorem isFlat_of_mem_bareCallOf {n : Node} {i : Item} (h : i ∈ bareCallOf n) :
    i.isFlat = true := by
  unfold bareCallOf at h
  split at h
  · split at h
    · rw [List.mem_singleton.mp h]
      rfl
    · cases h
  · cases h

theorem shape_call (settings : Settings) (place : Place) (v : Visibility) (n : Node)
    (hkind : n.kind = .call) : Shape settings ⟨n, .code place, v⟩ := by
  have hopens : Visit.opens ⟨n, .code place, v⟩ = false := by simp [opens, hkind]
  have hframe : frame settings ⟨n, .code place, v⟩ =
      (callStep v settings n (callAt settings place n)).1 := by
    simp only [frame, step, codeStep, hkind]
  have hregistration : place ≠ .body → registration? settings ⟨n, .code place, v⟩ = none := by
    intro h
    cases place with
    | body => exact absurd rfl h
    | singletonBody | inside => rfl
  cases hcall : callAt settings place n with
  | plain =>
    rw [hcall] at hframe
    refine .after _ hopens ?_ ?_ hframe
    · by_cases h : place = .body
      · subst h
        have hbody : bodyCall settings n = .plain := hcall
        simp only [registration?, hkind, hbody]
      · exact hregistration h
    · intro i hi
      rcases List.mem_append.mp hi with hi | hi
      · obtain ⟨s, -, rfl⟩ := List.mem_map.mp hi
        rfl
      · exact isFlat_of_mem_bareCallOf hi
  | callback r =>
    obtain ⟨rfl, hbody⟩ := callAt_ne_plain hcall rfl
    rw [hcall] at hframe
    exact .callback r hopens (by simp only [registration?, hkind, hbody]) hframe
  | wrapper w =>
    obtain ⟨rfl, hbody⟩ := callAt_ne_plain hcall rfl
    rw [hcall] at hframe
    exact .after _ hopens (by simp only [registration?, hkind, hbody]) (List.forall_mem_nil _)
      hframe
  | directive names w =>
    obtain ⟨rfl, hbody⟩ := callAt_ne_plain hcall rfl
    rw [hcall] at hframe
    exact .after _ hopens (by simp only [registration?, hkind, hbody])
      (List.forall_mem_singleton.mpr rfl) hframe

theorem shape (settings : Settings) (x : Visit) : Shape settings x := by
  obtain ⟨n, standing, v⟩ := x
  cases standing with
  | code place =>
    by_cases hcall : n.kind = .call
    · exact shape_call settings place v n hcall
    have hregistration : registration? settings ⟨n, .code place, v⟩ = none :=
      registration?_of_not_call hcall
    cases hkind : n.kind with
    | call => exact absurd hkind hcall
    | classDef | moduleDef =>
      exact .space (by simp [opens, hkind]) hregistration
        (by simp only [frame, step, codeStep, hkind])
    | singletonClass | singletonMethod =>
      exact .owned .nobody (by simp [opens, hkind]) hregistration (by simp)
        (Or.inl (by simp [defines, isDefinition, hkind]))
        (by simp only [frame, step, codeStep, hkind])
    | method =>
      cases howner : methodOwner? place v n with
      | none =>
        exact .after [] (by simp [opens, hkind]) hregistration (List.forall_mem_nil _)
          (by simp only [frame, step, codeStep, hkind, howner])
      | some owner =>
        refine .owned owner (by simp [opens, hkind]) hregistration ?_
          (Or.inl (by simp [defines, isDefinition, hkind]))
          (by simp only [frame, step, codeStep, hkind, howner])
        rintro r rfl
        unfold methodOwner? at howner
        split at howner
        · cases howner
        · obtain ⟨name, -, h⟩ := Option.map_eq_some_iff.mp howner
          cases h
    | identifier =>
      refine .after _ (by simp [opens, hkind]) hregistration ?_
        (by simp only [frame, step, codeStep, hkind]; rfl)
      intro i hi
      split at hi
      · cases hi
      · rw [List.mem_singleton.mp hi]
        rfl
    | _ =>
      exact .after [] (by simp [opens, hkind]) hregistration (List.forall_mem_nil _)
        (by simp only [frame, step, codeStep, hkind])
  | loose => exact .owned .nobody rfl rfl (by simp) (Or.inr rfl) rfl
  | _ => exact .after [] rfl rfl (List.forall_mem_nil _) rfl

/-- Is a visit to code? -/
def isCode (x : Visit) : Bool :=
  match x.standing with
  | .code _ => true
  | _ => false

theorem isCode_of_isCall {settings : Settings} {x : Visit} (h : x.isCall settings = true) :
    x.isCode = true := by
  obtain ⟨n, standing, v⟩ := x
  cases standing with
  | code place => rfl
  | _ => cases h

/-- Is a visit to the definition of an object's own class? -/
def isSingletonClass (x : Visit) : Bool := x.isCode && x.node.kind = .singletonClass

/-- How a visit may follow another one. -/
inductive Follows (settings : Settings) (x y : Visit) : Prop where
  /-- From code to code inside it. -/
  | inside (hx : x.isCode = true) (hopens : x.opens = false)
      (hsingleton : x.isSingletonClass = false) (hy : y.standing = .code .inside)
  /-- From a class or module to its body or a member of it. -/
  | body (hopens : x.opens = true)
      (hy : y.standing = .code .body ∨
        y.standing = .statements .body ∧ y.node.kind = .bodyStatement)
  /-- From an object's own class to its body or a member of it. -/
  | singletonBody (hsingleton : x.isSingletonClass = true)
      (hy : y.standing = .code .singletonBody ∨
        y.standing = .statements .singletonBody ∧ y.node.kind = .bodyStatement)
  /-- From the statements of a body to one of them. -/
  | statement (place : Place) (hx : x.standing = .statements place) (hy : y.standing = .code place)
  /-- From a call that sets a visibility to its arguments. -/
  | wrapped (hx : x.standing = .code .body) (hregistration : x.registration? settings = none)
      (hdefines : x.defines = false) (w : Visibility) (hy : y.standing = .wrapped w)
      (hplays : y.node.plays .arguments = true)
  /-- To one of these arguments. -/
  | wrappedArgument (w : Visibility) (hx : x.standing = .wrapped w)
      (hy : y.standing = .code .inside)
  /-- From a call that registers a callback to its arguments. -/
  | arguments (r : Registration) (hx : x.registration? settings = some r)
      (hy : y.standing = .arguments) (hplays : y.node.plays .arguments = true)
  /-- To a lambda among these arguments. -/
  | lambda (hx : x.standing = .arguments) (hy : y.standing = .code .inside)
      (hkind : y.node.kind = .lambda)
  /-- To any other of these arguments. -/
  | argument (hx : x.standing = .arguments) (hy : y.standing = .loose)
  /-- From such an argument to its code. -/
  | loose (hx : x.standing = .loose) (hy : y.standing = .code .inside)

theorem defines_of_opens {x : Visit} (h : x.opens = true) : x.defines = true := by
  obtain ⟨n, standing, v⟩ := x
  cases standing with
  | code place =>
    simp only [opens, Bool.or_eq_true, decide_eq_true_eq] at h
    rcases h with hkind | hkind <;> simp [defines, isDefinition, hkind]
  | _ => cases h

theorem defines_of_isSingletonClass {x : Visit} (h : x.isSingletonClass = true) :
    x.defines = true := by
  obtain ⟨n, standing, v⟩ := x
  cases standing with
  | code place =>
    have hkind : n.kind = .singletonClass := by simpa [isSingletonClass, isCode] using h
    simp [defines, isDefinition, hkind]
  | _ => cases h

theorem defines_eq_false {x : Visit} (h : x.isCode = false) : x.defines = false := by
  unfold isCode at h
  unfold defines
  split at h
  · cases h
  · rfl

/-- A definition that is no class, no module and no object's own class is a method. -/
theorem kind_of_defines {x : Visit} (hdefines : x.defines = true) (hopens : x.opens = false)
    (hsingleton : x.isSingletonClass = false) :
    x.node.kind = .method ∨ x.node.kind = .singletonMethod := by
  obtain ⟨n, standing, v⟩ := x
  cases standing with
  | code place =>
    simp only [defines, isDefinition, Bool.or_eq_true, decide_eq_true_eq] at hdefines
    rcases hdefines with (((hkind | hkind) | hkind) | hkind) | hkind
    · exact Or.inl hkind
    · exact Or.inr hkind
    · simp [isSingletonClass, isCode, hkind] at hsingleton
    · simp [opens, hkind] at hopens
    · simp [opens, hkind] at hopens
  | _ => cases hdefines

theorem frame_of_opens {settings : Settings} {x : Visit} (h : x.opens = true) :
    x.frame settings = .space (spaceOf settings x.node) := by
  cases x.shape settings with
  | space _ _ hframe => exact hframe
  | callback _ hopens | owned _ hopens | after _ hopens => rw [h] at hopens; cases hopens

/-- Code with an owner of its own is not the body of anything. -/
theorem not_body_of_frame_owned {settings : Settings} {x : Visit} {owner : Owner}
    (hframe : x.frame settings = .owned owner) :
    ¬ (x.opens = true ∨ x.standing = .statements .body) := by
  rintro (hopens | hstatements)
  · rw [frame_of_opens hopens] at hframe
    cases hframe
  · rw [frame_statements hstatements] at hframe
    cases hframe

/-- Code that is no definition and registers no callback has the owner of the code around it. -/
theorem exists_frame_after {settings : Settings} {x : Visit}
    (hregistration : x.registration? settings = none) (hdefines : x.defines = false)
    (hloose : x.standing ≠ .loose) : ∃ items, x.frame settings = .after items := by
  cases x.shape settings with
  | space hopens => rw [defines_of_opens hopens] at hdefines; cases hdefines
  | callback r _ hregistration' => rw [hregistration] at hregistration'; cases hregistration'
  | owned _ _ _ _ hcode =>
    rcases hcode with h | h
    · rw [h] at hdefines
      cases hdefines
    · exact absurd h hloose
  | after items _ _ _ hframe => exact ⟨items, hframe⟩

/-- A call that registers a callback is a member of a body and no definition. -/
theorem of_registration? {settings : Settings} {x : Visit} {r : Registration}
    (h : x.registration? settings = some r) :
    x.standing = .code .body ∧ x.defines = false ∧ x.frame settings = .owned (.callback r) := by
  have hstanding : x.standing = .code .body := by
    by_contra hne
    rw [registration?_eq_none hne] at h
    cases h
  have hkind : x.node.kind = .call := by
    simp only [registration?, hstanding] at h
    split at h
    · assumption
    · cases h
  refine ⟨hstanding, by simp [defines, isDefinition, hstanding, hkind], ?_⟩
  cases x.shape settings with
  | callback r' _ h' hframe =>
    rw [h] at h'
    cases h'
    exact hframe
  | space _ h' | owned _ _ h' | after _ _ h' => rw [h] at h'; cases h'

theorem frame_of_isSingletonClass {settings : Settings} {x : Visit}
    (h : x.isSingletonClass = true) : x.frame settings = .owned .nobody := by
  obtain ⟨n, standing, v⟩ := x
  cases standing with
  | code place =>
    have hkind : n.kind = .singletonClass := by simpa [isSingletonClass, isCode] using h
    simp only [frame, step, codeStep, hkind]
  | _ => cases h

theorem standing_of_mem_members {place : Place} {test : Node → Bool} {v : Visibility}
    {cs : List Node} {y : Visit} (h : y ∈ members place test v cs) : y.standing = .code place := by
  induction cs generalizing v with
  | nil => cases h
  | cons c cs ih =>
    rw [members] at h
    split at h
    · rcases List.mem_cons.mp h with rfl | h
      · rfl
      · exact ih h
    · exact ih h

theorem standing_of_mem_ofBody {place : Place} {cs : List Node} {y : Visit}
    (h : y ∈ ofBody place cs) :
    y.standing = .code place ∨
      y.standing = .statements place ∧ y.node.kind = .bodyStatement := by
  unfold ofBody at h
  split at h
  · obtain ⟨b, -, rfl⟩ := Option.map_eq_some_iff.mp (Option.mem_toList.mp h)
    by_cases hkind : b.kind = .bodyStatement
    · exact Or.inr ⟨by simp [hkind], hkind⟩
    · exact Or.inl (by simp [hkind])
  · exact Or.inl (standing_of_mem_members h)

theorem standing_of_mem_each {test : Node → Bool} {v : Visibility} {cs : List Node} {y : Visit}
    (h : y ∈ each test (inside v) cs) : y.standing = .code .inside := by
  obtain ⟨c, -, rfl⟩ := List.mem_map.mp h
  rfl

theorem standing_of_mem_first {test : Node → Bool} {v : Visibility} {cs : List Node} {y : Visit}
    (h : y ∈ first test (inside v) cs) : y.standing = .code .inside := by
  obtain ⟨c, -, rfl⟩ := Option.map_eq_some_iff.mp (Option.mem_toList.mp h)
  rfl

theorem standing_of_mem_ofMethod {cs : List Node} {y : Visit} (h : y ∈ ofMethod cs) :
    y.standing = .code .inside := by
  unfold ofMethod at h
  split at h
  · exact standing_of_mem_first h
  · exact standing_of_mem_each h

theorem follows_call {settings : Settings} {place : Place} {v : Visibility} {n : Node} {y : Visit}
    (hkind : n.kind = .call) (h : y ∈ next settings ⟨n, .code place, v⟩) :
    Follows settings ⟨n, .code place, v⟩ y := by
  have hinside : y.standing = .code .inside → Follows settings ⟨n, .code place, v⟩ y :=
    .inside rfl (by simp [opens, hkind]) (by simp [isSingletonClass, hkind])
  simp only [next, step, codeStep, hkind] at h
  cases hcall : callAt settings place n with
  | plain =>
    rw [hcall] at h
    exact hinside (standing_of_mem_each h)
  | callback r =>
    rw [hcall] at h
    obtain ⟨rfl, hbody⟩ := callAt_ne_plain hcall rfl
    rcases List.mem_append.mp h with h | h
    · obtain ⟨c, hc, rfl⟩ := Option.map_eq_some_iff.mp (Option.mem_toList.mp h)
      exact .arguments r (by simp only [registration?, hkind, hbody]) rfl (List.find?_some hc)
    · exact hinside (standing_of_mem_first h)
  | wrapper w =>
    rw [hcall] at h
    obtain ⟨rfl, hbody⟩ := callAt_ne_plain hcall rfl
    obtain ⟨c, hc, rfl⟩ := Option.map_eq_some_iff.mp (Option.mem_toList.mp h)
    exact .wrapped rfl (by simp only [registration?, hkind, hbody])
      (by simp [defines, isDefinition, hkind]) w rfl (List.find?_some hc)
  | directive names w =>
    rw [hcall] at h
    cases h

theorem follows_arguments {settings : Settings} {x y : Visit} (hx : x.standing = .arguments)
    {seen : Bool} {cs : List Node} (h : y ∈ callbackArguments seen cs) : Follows settings x y := by
  induction cs generalizing seen with
  | nil => cases h
  | cons c cs ih =>
    rw [callbackArguments] at h
    split at h
    · rcases List.mem_append.mp h with h | h
      · split at h
        · rename_i hkind
          rw [List.mem_singleton.mp h]
          exact .lambda hx rfl hkind
        · split at h
          · cases h
          · rw [List.mem_singleton.mp h]
            exact .argument hx rfl
      · exact ih h
    · exact ih h

/-- Every step of the walk is one of these. -/
theorem follows_of_mem_next {settings : Settings} {x y : Visit} (h : y ∈ x.next settings) :
    Follows settings x y := by
  obtain ⟨n, standing, v⟩ := x
  cases standing with
  | code place =>
    by_cases hcall : n.kind = .call
    · exact follows_call hcall h
    simp only [next, step] at h
    cases hkind : n.kind with
    | call => exact absurd hkind hcall
    | classDef | moduleDef =>
      simp only [codeStep, hkind] at h
      exact .body (by simp [opens, hkind]) (standing_of_mem_ofBody h)
    | singletonClass =>
      simp only [codeStep, hkind] at h
      exact .singletonBody (by simp [isSingletonClass, isCode, hkind]) (standing_of_mem_ofBody h)
    | singletonMethod =>
      simp only [codeStep, hkind] at h
      exact .inside rfl (by simp [opens, hkind]) (by simp [isSingletonClass, hkind])
        (standing_of_mem_ofMethod h)
    | method =>
      simp only [codeStep, hkind] at h
      split at h
      · cases h
      · exact .inside rfl (by simp [opens, hkind]) (by simp [isSingletonClass, hkind])
          (standing_of_mem_ofMethod h)
    | assignment | operatorAssignment =>
      simp only [codeStep, hkind] at h
      refine .inside rfl (by simp [opens, hkind]) (by simp [isSingletonClass, hkind]) ?_
      rcases List.mem_append.mp h with h | h
      · exact standing_of_mem_first h
      · exact standing_of_mem_first h
    | identifier | methodParameters | parameters | blockParameters | lambdaParameters
    | exceptionVariable | comment =>
      simp only [codeStep, hkind] at h
      cases h
    | _ =>
      simp only [codeStep, hkind] at h
      exact .inside rfl (by simp [opens, hkind]) (by simp [isSingletonClass, hkind])
        (standing_of_mem_each h)
  | loose =>
    rw [List.mem_singleton.mp h]
    exact .loose rfl rfl
  | statements place => exact .statement place rfl (standing_of_mem_members h)
  | wrapped w =>
    obtain ⟨c, -, rfl⟩ := List.mem_map.mp h
    exact .wrappedArgument w rfl rfl
  | arguments => exact follows_arguments rfl h

/-! ## Steps back -/

/-- A definition is looked at as code, now or next, unless it stands in place of arguments. -/
theorem Follows.of_isDefinition {settings : Settings} {x y : Visit} (h : Follows settings x y)
    (hy : isDefinition y.node = true) :
    y.defines = true ∨ y.standing = .loose ∨ y.node.plays .arguments = true := by
  have hcode : ∀ place, y.standing = .code place → y.defines = true := by
    intro place hstanding
    simp only [defines, hstanding, hy]
  cases h with
  | body _ hy' | singletonBody _ hy' =>
    rcases hy' with hstanding | ⟨-, hkind⟩
    · exact Or.inl (hcode _ hstanding)
    · simp [isDefinition, hkind] at hy
  | inside _ _ _ hstanding | statement _ _ hstanding | wrappedArgument _ _ hstanding
  | lambda _ hstanding | loose _ hstanding => exact Or.inl (hcode _ hstanding)
  | argument _ hstanding => exact Or.inr (Or.inl hstanding)
  | wrapped _ _ _ _ _ hplays | arguments _ _ _ hplays => exact Or.inr (Or.inr hplays)

theorem Follows.of_wrapped {settings : Settings} {x y : Visit} {w : Visibility}
    (h : Follows settings x y) (hy : y.standing = .wrapped w) :
    x.standing = .code .body ∧ x.registration? settings = none ∧ x.defines = false := by
  cases h with
  | wrapped hx hregistration hdefines => exact ⟨hx, hregistration, hdefines⟩
  | body _ hy' | singletonBody _ hy' => rcases hy' with hy' | hy' <;> simp [hy] at hy'
  | _ => simp_all

theorem Follows.of_arguments {settings : Settings} {x y : Visit} (h : Follows settings x y)
    (hy : y.standing = .arguments) : ∃ r, x.registration? settings = some r := by
  cases h with
  | arguments r hx => exact ⟨r, hx⟩
  | body _ hy' | singletonBody _ hy' => rcases hy' with hy' | hy' <;> simp [hy] at hy'
  | _ => simp_all

theorem Follows.of_loose {settings : Settings} {x y : Visit} (h : Follows settings x y)
    (hy : y.standing = .loose) : x.standing = .arguments := by
  cases h with
  | argument hx => exact hx
  | body _ hy' | singletonBody _ hy' => rcases hy' with hy' | hy' <;> simp [hy] at hy'
  | _ => simp_all

theorem Follows.of_statements {settings : Settings} {x y : Visit} {place : Place}
    (h : Follows settings x y) (hy : y.standing = .statements place) :
    x.opens = true ∧ place = .body ∨ x.isSingletonClass = true ∧ place = .singletonBody := by
  cases h with
  | body hopens hy' => exact Or.inl ⟨hopens, by simp_all⟩
  | singletonBody hsingleton hy' => exact Or.inr ⟨hsingleton, by simp_all⟩
  | _ => simp_all

/-- The statements of a body stand in a class or module. -/
theorem Follows.of_statements_body {settings : Settings} {x y : Visit} (h : Follows settings x y)
    (hy : y.standing = .statements .body) : x.opens = true := by
  rcases h.of_statements hy with ⟨hopens, -⟩ | ⟨-, hplace⟩
  · exact hopens
  · cases hplace

theorem Follows.of_code_body {settings : Settings} {x y : Visit} (h : Follows settings x y)
    (hy : y.standing = .code .body) : x.opens = true ∨ x.standing = .statements .body := by
  cases h with
  | body hopens => exact Or.inl hopens
  | statement place hx hy' => exact Or.inr (by simp_all)
  | singletonBody _ hy' => rcases hy' with hy' | hy' <;> simp [hy] at hy'
  | _ => simp_all

theorem Follows.of_code_singletonBody {settings : Settings} {x y : Visit}
    (h : Follows settings x y) (hy : y.standing = .code .singletonBody) :
    x.isSingletonClass = true ∨ x.standing = .statements .singletonBody := by
  cases h with
  | singletonBody hsingleton => exact Or.inl hsingleton
  | statement place hx hy' => exact Or.inr (by simp_all)
  | body _ hy' => rcases hy' with hy' | hy' <;> simp [hy] at hy'
  | _ => simp_all

/-! ## Callbacks -/

/-- Only the members of a body register callbacks. -/
theorem not_member_of_mem_next {settings : Settings} {x y : Visit} (hopens : x.opens = false)
    (hx : x.standing ≠ .statements .body) (h : y ∈ x.next settings) :
    y.standing ≠ .code .body ∧ y.standing ≠ .statements .body := by
  have hfollows := follows_of_mem_next h
  constructor
  · intro hy
    rcases hfollows.of_code_body hy with h | h
    · rw [hopens] at h
      cases h
    · exact hx h
  · intro hy
    have h := hfollows.of_statements_body hy
    rw [hopens] at h
    cases h

theorem registrationsAll_flatMap (settings : Settings) (ys : List Visit) :
    Item.registrationsAll (ys.flatMap (outline settings)) =
      ys.flatMap fun y => Item.registrationsAll (y.outline settings) := by
  induction ys with
  | nil => rfl
  | cons y ys ih =>
    rw [List.flatMap_cons, List.flatMap_cons, Item.registrationsAll_append, ih]

/-- A visit that is not to the statements of a body registers at most the callback of its node. -/
theorem registrationsAll_outline (settings : Settings) (x : Visit)
    (hx : x.standing ≠ .statements .body) :
    Item.registrationsAll (x.outline settings) = (x.registration? settings).toList := by
  induction x using induct settings with
  | h x ih =>
    have hnext : x.opens = false →
        Item.registrationsAll ((x.next settings).flatMap (outline settings)) = [] := by
      intro hopens
      rw [registrationsAll_flatMap, List.flatMap_eq_nil_iff]
      intro y hy
      obtain ⟨hcode, hstatements⟩ := not_member_of_mem_next hopens hx hy
      rw [ih y hy hstatements, registration?_eq_none hcode]
      rfl
    rw [outline_eq]
    cases x.shape settings with
    | space _ hregistration hframe =>
      rw [hframe, hregistration]
      rfl
    | callback r hopens hregistration hframe =>
      rw [hframe, hregistration, Frame.wrap, Item.registrationsAll, Item.registrations,
        hnext hopens]
      rfl
    | owned owner hopens hregistration howner _ hframe =>
      rw [hframe, hregistration, Frame.wrap, Item.registrationsAll]
      cases owner with
      | callback r => exact absurd rfl (howner r)
      | nobody | method => simp [Item.registrations, Item.registrationsAll, hnext hopens]
    | after items hopens hregistration hflat hframe =>
      rw [hframe, hregistration, Frame.wrap, Item.registrationsAll_append, hnext hopens,
        Item.registrationsAll_of_isFlat hflat]
      rfl

/-- Members of a body register the callbacks of their nodes. -/
theorem registrationsAll_members {settings : Settings} {ys : List Visit}
    (h : ∀ y ∈ ys, y.standing = .code .body) :
    Item.registrationsAll (ys.flatMap (outline settings)) =
      ys.filterMap (registration? settings) := by
  induction ys with
  | nil => rfl
  | cons y ys ih =>
    obtain ⟨hy, hys⟩ := List.forall_mem_cons.mp h
    rw [List.flatMap_cons, Item.registrationsAll_append, ih hys,
      registrationsAll_outline settings y (by simp [hy]), List.filterMap_cons]
    cases y.registration? settings <;> rfl

theorem next_of_opens {settings : Settings} {x : Visit} (h : x.opens = true) :
    x.next settings = ofBody .body x.node.children := by
  obtain ⟨n, standing, v⟩ := x
  cases standing with
  | code place =>
    simp only [opens, Bool.or_eq_true, decide_eq_true_eq] at h
    rcases h with hkind | hkind <;> simp only [next, step, codeStep, hkind]
  | _ => cases h

/-- A class or module has either one body or members. -/
theorem body_or_members (settings : Settings) {x : Visit} (h : x.opens = true) :
    (∃ y, x.next settings = [y]) ∨ ∀ y ∈ x.next settings, y.standing = .code .body := by
  rw [next_of_opens h]
  unfold ofBody first
  split
  · cases x.node.children.find? (Node.plays .body) with
    | none => exact Or.inr (List.forall_mem_nil _)
    | some b => exact Or.inl ⟨_, rfl⟩
  · exact Or.inr fun y hy => standing_of_mem_members hy

theorem standing_of_mem_next_statements {settings : Settings} {x y : Visit} {place : Place}
    (hx : x.standing = .statements place) (hy : y ∈ x.next settings) :
    y.standing = .code place := by
  obtain ⟨n, standing, v⟩ := x
  cases hx
  exact standing_of_mem_members hy

/-- In a body nothing but members comes before another visit. -/
theorem standing_of_mem_take_next {settings : Settings} {x y : Visit} {j : Nat}
    (hx : x.opens = true ∨ x.standing = .statements .body) (hj : (x.next settings)[j]? = some y) :
    ∀ z ∈ (x.next settings).take j, z.standing = .code .body := by
  rcases hx with hopens | hstatements
  · rcases body_or_members settings hopens with ⟨b, hnext⟩ | hmembers
    · have hzero : j = 0 := by
        have hlt := (List.getElem?_eq_some_iff.mp hj).1
        rw [hnext, List.length_singleton] at hlt
        omega
      rw [hzero, List.take_zero]
      exact List.forall_mem_nil _
    · exact fun z hz => hmembers z (List.mem_of_mem_take hz)
  · exact fun z hz => standing_of_mem_next_statements hstatements (List.mem_of_mem_take hz)

end Visit

end LocaleKeys.Outline

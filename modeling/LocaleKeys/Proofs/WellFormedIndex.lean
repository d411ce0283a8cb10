import LocaleKeys.Proofs.Attribution

/-!
# Proofs: indexes refer to what they hold

The callers of calls and sites are handed down while an index is made, before it is known what its
namespaces hold in the end: definitions are replaced by later ones of their names, and callbacks are
counted before they are listed. In the end all of these references hold: a caller is a method that
is defined in the namespace and whose name is one of its methods, or a callback that it lists. So a
call graph has the methods of its namespace for nodes and nothing else.
-/

namespace LocaleKeys

open Ast

/-! ## Callers -/

namespace Item

mutual

theorem of_mem_calls {P : Caller → Prop} {caller : Option Caller} {callbacks : Nat} (i : Item)
    (hcaller : ∀ c, caller = some c → P c) (hdefinitions : ∀ m ∈ i.definitions, P (.method m))
    (hregistrations : ∀ k, callbacks ≤ k → k < callbacks + i.registrations.length →
      P (.callback k)) :
    ∀ call ∈ i.calls caller callbacks, P call.caller := by
  match i with
  | .owned .nobody body =>
    exact of_mem_callsAll body (fun c hc => by cases hc) hdefinitions hregistrations
  | .owned (.method m) body =>
    obtain ⟨hm, hbody⟩ := List.forall_mem_cons.mp hdefinitions
    refine of_mem_callsAll body (fun c hc => ?_) hbody hregistrations
    cases hc
    exact hm
  | .owned (.callback r) body =>
    refine of_mem_callsAll body (fun c hc => ?_) hdefinitions fun k hk hlt => ?_
    · cases hc
      exact hregistrations callbacks (Nat.le_refl _) (by simp [registrations])
    · refine hregistrations k ?_ ?_
      · simp only [callbacksWithin] at hk
        omega
      · simp only [callbacksWithin] at hlt
        simp only [registrations, List.length_cons]
        omega
  | .bareCall name line =>
    intro call hcall
    cases caller with
    | none => cases hcall
    | some c =>
      rw [List.mem_singleton.mp hcall]
      exact hcaller c rfl
  | .space .. | .directive .. | .site .. => exact List.forall_mem_nil _

/-- Whoever makes a call is a method that the items define, a callback that they register, or the
caller of the code around them. -/
theorem of_mem_callsAll {P : Caller → Prop} {caller : Option Caller} {callbacks : Nat}
    (is : List Item) (hcaller : ∀ c, caller = some c → P c)
    (hdefinitions : ∀ m ∈ definitionsAll is, P (.method m))
    (hregistrations : ∀ k, callbacks ≤ k → k < callbacks + (registrationsAll is).length →
      P (.callback k)) :
    ∀ call ∈ callsAll caller callbacks is, P call.caller := by
  match is with
  | [] => exact List.forall_mem_nil _
  | i :: is =>
    rw [definitionsAll] at hdefinitions
    rw [registrationsAll, List.length_append] at hregistrations
    obtain ⟨hi, his⟩ := List.forall_mem_append.mp hdefinitions
    refine List.forall_mem_append.mpr ⟨of_mem_calls i hcaller hi fun k hk hlt => ?_,
      of_mem_callsAll is hcaller his fun k hk hlt => ?_⟩
    · exact hregistrations k hk (by omega)
    · exact hregistrations k (by omega) (by omega)

end

end Item

/-! ## Methods -/

namespace Context

theorem mem_addMethod {methods : List MethodDef} {m m' : MethodDef} :
    m' ∈ addMethod methods m ↔ m' = m ∨ m' ∈ methods ∧ m'.name ≠ m.name := by
  rw [addMethod, List.mem_append, List.mem_filter, List.mem_singleton, decide_eq_true_iff]
  exact or_comm

/-- The methods are among the definitions. -/
theorem mem_of_mem_foldl_addMethod {definitions methods : List MethodDef} {m : MethodDef}
    (h : m ∈ definitions.foldl addMethod methods) : m ∈ methods ∨ m ∈ definitions := by
  induction definitions generalizing methods with
  | nil => exact .inl h
  | cons d definitions ih =>
    rcases ih h with h | h
    · rcases mem_addMethod.mp h with rfl | ⟨h, -⟩
      · exact .inr List.mem_cons_self
      · exact .inl h
    · exact .inr (List.mem_cons_of_mem d h)

/-- A definition that is replaced leaves a method of its name. -/
theorem exists_mem_foldl_addMethod {definitions methods : List MethodDef} {m : MethodDef}
    (h : m ∈ methods ∨ m ∈ definitions) :
    ∃ m' ∈ definitions.foldl addMethod methods, m'.name = m.name := by
  induction definitions generalizing methods m with
  | nil =>
    rcases h with h | h
    · exact ⟨m, h, rfl⟩
    · cases h
  | cons d definitions ih =>
    rw [List.foldl_cons]
    have hadded : d ∈ addMethod methods d := mem_addMethod.mpr (.inl rfl)
    rcases h with h | h
    · by_cases hname : m.name = d.name
      · rw [hname]
        exact ih (.inl hadded)
      · exact ih (.inl (mem_addMethod.mpr (.inr ⟨h, hname⟩)))
    · rcases List.mem_cons.mp h with rfl | h
      · exact ih (.inl hadded)
      · exact ih (.inr h)

theorem exists_definition {space : Space} {body : List Item} {m : MethodDef}
    (h : m ∈ (ofBody space body).methods) :
    ∃ m' ∈ Item.definitionsAll body, m = { m' with visibility := m.visibility } := by
  obtain ⟨m', hm', rfl⟩ := List.mem_map.mp h
  rcases mem_of_mem_foldl_addMethod hm' with h | h
  · cases h
  · refine ⟨m', h, ?_⟩
    unfold directed
    split <;> rfl

theorem hasMethod_of_mem_definitionsAll (space : Space) {body : List Item} {m : MethodDef}
    (h : m ∈ Item.definitionsAll body) : (ofBody space body).hasMethod m.name = true := by
  obtain ⟨m', hm', hname⟩ := exists_mem_foldl_addMethod (.inr h)
  rw [hasMethod_iff, ← hname, ← directed_name (Item.directives body)]
  exact List.mem_map_of_mem (List.mem_map_of_mem hm')

/-- With each name once, a name leads to its method. -/
theorem method?_eq_some {c : Context} (h : c.NamesOnce) {m : MethodDef} (hm : m ∈ c.methods) :
    c.method? m.name = some m := by
  have hsome : (c.method? m.name).isSome = true :=
    List.find?_isSome.mpr ⟨m, hm, decide_eq_true rfl⟩
  obtain ⟨m', hm'⟩ := Option.isSome_iff_exists.mp hsome
  have hname : m'.name = m.name := by simpa using List.find?_some hm'
  rw [hm', List.inj_on_of_nodup_map h (List.mem_of_find?_eq_some hm') hm hname]

end Context

/-! ## Definitions along the walk -/

namespace Item

theorem definitionsAll_append (xs ys : List Item) :
    definitionsAll (xs ++ ys) = definitionsAll xs ++ definitionsAll ys := by
  induction xs with
  | nil => rfl
  | cons x xs ih => rw [List.cons_append, definitionsAll, definitionsAll, ih, List.append_assoc]

theorem definitionsAll_of_isFlat {is : List Item} (h : ∀ i ∈ is, i.isFlat = true) :
    definitionsAll is = [] := by
  induction is with
  | nil => rfl
  | cons i is ih =>
    obtain ⟨hi, his⟩ := List.forall_mem_cons.mp h
    rw [definitionsAll, ih his]
    cases i with
    | space | owned => cases hi
    | directive | bareCall | site => rfl

end Item

namespace Outline

/-- A visit to the definition of a method, which is not an object's own. -/
def Visit.DefinesMethod (x : Visit) (m : MethodDef) : Prop :=
  x.defines = true ∧ x.node.kind = .method ∧ x.standing ≠ .code .singletonBody ∧
    x.definition? = some m

theorem Visit.DefinesMethod.opens_eq_false {x : Visit} {m : MethodDef} (h : x.DefinesMethod m) :
    x.opens = false := by
  rw [opens, h.2.1]
  split <;> rfl

theorem Visit.kind_of_frame_method {settings : Settings} {x : Visit} {m : MethodDef}
    (h : x.frame settings = .owned (.method m)) : x.defines = true ∧ x.node.kind = .method := by
  have hnobody : x.frame settings ≠ .owned .nobody := by simp [h]
  cases x.shape settings with
  | space _ _ hframe | callback _ _ _ hframe | after _ _ _ _ hframe =>
    rw [hframe] at h
    cases h
  | owned o hopens _ _ hcode hframe =>
    have hdefines : x.defines = true := hcode.resolve_right fun hx => hnobody (frame_loose hx)
    have hsingleton : x.isSingletonClass = false :=
      Bool.eq_false_iff.mpr fun hx => hnobody (frame_of_isSingletonClass hx)
    refine ⟨hdefines, (kind_of_defines hdefines hopens hsingleton).resolve_right fun hkind => ?_⟩
    obtain ⟨n, standing, v⟩ := x
    cases standing with
    | code place => exact hnobody (by simp only [frame, step, codeStep, hkind])
    | _ => cases hdefines

theorem Visit.frame_eq_method_iff {settings : Settings} {x : Visit} {m : MethodDef} :
    x.frame settings = .owned (.method m) ↔ x.DefinesMethod m := by
  by_cases hx : x.defines = true ∧ x.node.kind = .method
  · obtain ⟨hdefines, hkind⟩ := hx
    obtain ⟨n, standing, v⟩ := x
    cases standing with
    | code place =>
      by_cases hplace : place = .singletonBody
      · simp [frame, step, codeStep, hkind, methodOwner?, DefinesMethod, hplace]
      · simp only [frame, step, codeStep, hkind, methodOwner?, if_neg hplace, DefinesMethod,
          hdefines, definition?]
        cases n.child? .name with
        | none => simp
        | some name => simp [hplace]
    | _ => cases hdefines
  · exact ⟨fun h => absurd (kind_of_frame_method h) hx, fun h => absurd ⟨h.1, h.2.1⟩ hx⟩

namespace Visit

/-- The method that a visit defines, unless that is an object's own. -/
def method? (x : Visit) : Option MethodDef :=
  if x.defines ∧ x.node.kind = .method ∧ x.standing ≠ .code .singletonBody then x.definition?
  else none

theorem method?_eq_some_iff {x : Visit} {m : MethodDef} :
    x.method? = some m ↔ x.DefinesMethod m := by
  rw [method?, DefinesMethod]
  by_cases h : x.defines ∧ x.node.kind = .method ∧ x.standing ≠ .code .singletonBody
  · rw [if_pos h]
    exact ⟨fun hm => ⟨h.1, h.2.1, h.2.2, hm⟩, fun hm => hm.2.2.2⟩
  · rw [if_neg h]
    exact ⟨fun hm => (by cases hm), fun hm => absurd ⟨hm.1, hm.2.1, hm.2.2.1⟩ h⟩

theorem method?_eq_none (settings : Settings) {x : Visit}
    (h : ∀ m, x.frame settings ≠ .owned (.method m)) : x.method? = none := by
  rw [Option.eq_none_iff_forall_ne_some]
  intro m hm
  exact h m (frame_eq_method_iff.mpr (method?_eq_some_iff.mp hm))

theorem method?_of_opens {x : Visit} (hopens : x.opens = true) : x.method? = none :=
  method?_eq_none {} (by simp [frame_of_opens hopens])

theorem definitionsAll_flatMap (settings : Settings) (ys : List Visit) :
    Item.definitionsAll (ys.flatMap (outline settings)) =
      ys.flatMap fun y => Item.definitionsAll (y.outline settings) := by
  induction ys with
  | nil => rfl
  | cons y ys ih => rw [List.flatMap_cons, List.flatMap_cons, Item.definitionsAll_append, ih]

theorem definitionsAll_of_opens {settings : Settings} {x : Visit} (hopens : x.opens = true) :
    Item.definitionsAll (x.outline settings) = [] := by
  rw [outline_eq, frame_of_opens hopens]
  rfl

/-- What a visit to anything but a class or module defines is its own method, followed by what the
visits after it define. -/
theorem definitionsAll_outline {settings : Settings} {x : Visit} (hopens : x.opens = false) :
    Item.definitionsAll (x.outline settings) =
      x.method?.toList ++
        (x.next settings).flatMap fun y => Item.definitionsAll (y.outline settings) := by
  rw [outline_eq, ← definitionsAll_flatMap]
  cases x.shape settings with
  | space h => rw [hopens] at h; cases h
  | callback r _ _ hframe =>
    rw [hframe, method?_eq_none settings (by simp [hframe])]
    simp [Frame.wrap, Item.definitionsAll, Item.definitions]
  | owned o _ _ _ _ hframe =>
    cases o with
    | nobody | callback =>
      rw [hframe, method?_eq_none settings (by simp [hframe])]
      simp [Frame.wrap, Item.definitionsAll, Item.definitions]
    | method m =>
      rw [hframe, method?_eq_some_iff.mpr (frame_eq_method_iff.mp hframe)]
      simp [Frame.wrap, Item.definitionsAll, Item.definitions]
  | after items _ _ hflat hframe =>
    rw [hframe, method?_eq_none settings (by simp [hframe]), Frame.wrap,
      Item.definitionsAll_append, Item.definitionsAll_of_isFlat hflat]
    rfl

theorem mem_definitionsAll_flatMap {settings : Settings} {m : MethodDef} {ys : List Visit} :
    m ∈ Item.definitionsAll (ys.flatMap (outline settings)) ↔
      ∃ y ∈ ys, m ∈ Item.definitionsAll (y.outline settings) := by
  rw [definitionsAll_flatMap, List.mem_flatMap]

theorem mem_definitionsAll_outline {settings : Settings} {x : Visit} {m : MethodDef} :
    m ∈ Item.definitionsAll (x.outline settings) ↔
      x.opens = false ∧ (x.DefinesMethod m ∨
        ∃ y ∈ x.next settings, m ∈ Item.definitionsAll (y.outline settings)) := by
  cases hopens : x.opens with
  | true => simp [definitionsAll_of_opens hopens]
  | false =>
    rw [definitionsAll_outline hopens, List.mem_append, Option.mem_toList, method?_eq_some_iff,
      List.mem_flatMap]
    simp

end Visit

namespace Trail

/-- A method is defined in the namespace that a trail opens: the walk visits its definition, and the
trail is that of the innermost class or module around it. -/
def DefinedIn (settings : Settings) (root : Node) (t : Trail) (m : MethodDef) : Prop :=
  ∃ number x around, (number, x) :: around ∈ walk settings root ∧ x.DefinesMethod m ∧
    space around = t

/-- The items of the body of the namespace that a trail opens. -/
def body (settings : Settings) (root : Node) : Trail → List Item
  | [] => Outline.ofTree settings root
  | (_, x) :: _ => (x.next settings).flatMap (Visit.outline settings)

theorem context_eq (settings : Settings) (root : Node) (t : Trail) :
    context settings root t = Context.ofBody (spaceAt settings t) (body settings root t) := by
  cases t <;> rfl

variable {settings : Settings} {root : Node} {m : MethodDef}

/-- What some code defines is defined in the namespace around it. -/
theorem Reached.definedIn {number : Nat} {x : Visit} {around : Trail}
    (h : Reached settings root ((number, x) :: around))
    (hm : m ∈ Item.definitionsAll (x.outline settings)) :
    DefinedIn settings root (space around) m := by
  induction x using Visit.induct settings generalizing number around with
  | h x ih =>
    obtain ⟨hopens, hdefines | ⟨y, hy, hm⟩⟩ := Visit.mem_definitionsAll_outline.mp hm
    · exact ⟨number, x, around, h.mem_walk, hdefines, rfl⟩
    · obtain ⟨i, hi⟩ := List.mem_iff_getElem?.mp hy
      have hspace : space ((number, x) :: around) = space around := space_of_not_opens hopens
      rw [← hspace]
      exact ih y hy (h.next hi) hm

/-- What some code defines is among the definitions of the body around it. -/
theorem Reached.mem_definitionsAll_body {t : Trail} (h : Reached settings root t) :
    ∀ number x around, t = (number, x) :: around → m ∈ Item.definitionsAll (x.outline settings) →
      m ∈ Item.definitionsAll (body settings root (space around)) := by
  induction h with
  | file =>
    rintro number x around ⟨⟩ hm
    exact hm
  | @next number i x y around _ hy ih =>
    rintro _ _ _ ⟨⟩ hm
    have hmem : y ∈ x.next settings := List.mem_of_getElem? hy
    cases hopens : x.opens with
    | true =>
      rw [space_of_opens hopens]
      exact Visit.mem_definitionsAll_flatMap.mpr ⟨y, hmem, hm⟩
    | false =>
      rw [space_of_not_opens hopens]
      exact ih _ _ _ rfl (Visit.mem_definitionsAll_outline.mpr ⟨hopens, .inr ⟨y, hmem, hm⟩⟩)

/-- The definitions of a body are those of the methods that are defined in its namespace. -/
theorem mem_definitionsAll_body {t : Trail} (h : t ∈ spaces settings root) :
    m ∈ Item.definitionsAll (body settings root t) ↔ DefinedIn settings root t m := by
  constructor
  · intro hm
    rcases List.mem_cons.mp h with rfl | h
    · exact Reached.file.definedIn hm
    · obtain ⟨hwalk, hopening⟩ := List.mem_filter.mp h
      cases t with
      | nil => cases hopening
      | cons v around =>
        obtain ⟨y, hy, hm⟩ := Visit.mem_definitionsAll_flatMap.mp hm
        obtain ⟨i, hi⟩ := List.mem_iff_getElem?.mp hy
        have hspace : space (v :: around) = v :: around := space_of_opens hopening
        rw [← hspace]
        exact ((Reached.of_mem_walk hwalk).next hi).definedIn hm
  · rintro ⟨number, x, around, hwalk, hdefines, rfl⟩
    have hopens := hdefines.opens_eq_false
    exact (Reached.of_mem_walk hwalk).mem_definitionsAll_body _ _ _ rfl
      (Visit.mem_definitionsAll_outline.mpr ⟨hopens, .inl hdefines⟩)

theorem callback?_ne_method {t : Trail} : callback? settings t ≠ some (.method m) := by
  intro h
  rw [callback?] at h
  split at h
  · cases h
  · split at h <;> cases h

/-- The method whose code makes a call is defined in the namespace around the call. -/
theorem Reached.definedIn_of_caller {v : Nat × Visit} {around : Trail}
    (h : Reached settings root (v :: around))
    (hcaller : caller settings (v :: around) = some (.method m)) :
    DefinedIn settings root (space around) m := by
  have hsplit : around = around.takeWhile (fun w => !w.2.defines) ++ definition around :=
    List.takeWhile_append_dropWhile.symm
  rw [caller, List.tail_cons] at hcaller
  cases hdefinition : definition around with
  | nil =>
    rw [hdefinition] at hcaller
    exact absurd hcaller callback?_ne_method
  | cons b rest =>
    have hdefines : b.2.defines = true := by
      have hhead := List.head?_dropWhile_not (fun w : Nat × Visit => !w.2.defines) around
      rw [show around.dropWhile _ = b :: rest from hdefinition] at hhead
      simpa using hhead
    rw [hdefinition] at hcaller hsplit
    have hmethod : b.2.DefinesMethod m := by
      dsimp only at hcaller
      split at hcaller
      · rename_i hkind
        split at hcaller
        · cases hcaller
        · rename_i hstanding
          obtain ⟨m', hm', heq⟩ := Option.map_eq_some_iff.mp hcaller
          cases heq
          exact ⟨hdefines, hkind, hstanding, hm'⟩
      · exact absurd hcaller callback?_ne_method
      · exact absurd hcaller callback?_ne_method
      · cases hcaller
    have hspace : space around = space rest := by
      rw [hsplit, space, List.dropWhile_append_of_pos fun w hw => ?_]
      · exact space_of_not_opens hmethod.opens_eq_false
      · have hnot := List.all_eq_true.mp List.all_takeWhile w hw
        cases hopens : w.2.opens with
        | false => rfl
        | true =>
          rw [Visit.defines_of_opens hopens] at hnot
          cases hnot
    rw [hsplit, ← List.cons_append] at h
    rw [hspace]
    exact ⟨b.1, b.2, rest, h.of_append.mem_walk, hmethod, rfl⟩

end Trail

end Outline

/-! ## Namespaces and sites -/

open Outline Trail

section Index

variable (settings : Settings) (root : Node)

/-- A namespace, which a trail opens, knows a caller: it is a method that is defined there and whose
name is that of one of the methods, or one of the callbacks. -/
def Context.Knows (t : Trail) (c : Context) : Caller → Prop
  | .method m => DefinedIn settings root t m ∧ c.hasMethod m.name = true
  | .callback k => ∃ r, c.callbacks[k]? = some r

/-- A namespace, which a trail opens, refers to what it holds. -/
structure Context.WellFormed (t : Trail) (c : Context) : Prop where
  /-- Every name belongs to one method only. -/
  namesOnce : c.NamesOnce
  /-- The name of a method leads to it, and it is defined there, up to its visibility. -/
  methods : ∀ m ∈ c.methods, c.method? m.name = some m ∧
    ∃ m', DefinedIn settings root t m' ∧ m = { m' with visibility := m.visibility }
  /-- It knows who makes the calls. -/
  calls : ∀ call ∈ c.calls, c.Knows settings root t call.caller

variable {settings root}

theorem Context.knows_method {t : Trail} (h : t ∈ spaces settings root) {m : MethodDef}
    (hm : DefinedIn settings root t m) :
    (context settings root t).Knows settings root t (.method m) := by
  refine ⟨hm, ?_⟩
  rw [context_eq]
  exact Context.hasMethod_of_mem_definitionsAll _ ((mem_definitionsAll_body h).mpr hm)

theorem Context.wellFormed {t : Trail} (h : t ∈ spaces settings root) :
    (context settings root t).WellFormed settings root t := by
  have hnames : (context settings root t).NamesOnce := by
    rw [context_eq]
    exact Context.namesOnce_ofBody _ _
  refine ⟨hnames, fun m hm => ⟨Context.method?_eq_some hnames hm, ?_⟩, ?_⟩
  · rw [context_eq] at hm
    obtain ⟨m', hm', heq⟩ := Context.exists_definition hm
    exact ⟨m', (mem_definitionsAll_body h).mp hm', heq⟩
  · have hcalls : (context settings root t).calls =
        Item.callsAll none 0 (body settings root t) := by rw [context_eq]; rfl
    have hcallbacks : (context settings root t).callbacks =
        Item.registrationsAll (body settings root t) := by rw [context_eq]; rfl
    rw [hcalls]
    refine Item.of_mem_callsAll _ (fun c hc => by cases hc) (fun m hm => ?_) fun k _ hk => ?_
    · exact Context.knows_method h ((mem_definitionsAll_body h).mp hm)
    · rw [Nat.zero_add, ← hcallbacks] at hk
      exact ⟨_, List.getElem?_eq_getElem hk⟩

theorem getElem?_spaceNumber {t : Trail} (h : t ∈ spaces settings root) :
    (spaces settings root)[spaceNumber settings root t]? = some t ∧
      (Index.ofTree settings root).contexts[spaceNumber settings root t]? =
        some (context settings root t) := by
  obtain ⟨j, hj⟩ := List.mem_iff_getElem?.mp h
  rw [spaceNumber_eq hj, contexts_ofTree, List.getElem?_map, hj]
  exact ⟨rfl, rfl⟩

/-- The namespace of a site knows who makes the call. -/
theorem Index.knows_caller {p : Placed} (h : p ∈ (Index.ofTree settings root).sites) :
    ∃ t c, (spaces settings root)[p.context]? = some t ∧
      (Index.ofTree settings root).contexts[p.context]? = some c ∧
      ∀ caller, p.caller = some caller → c.Knows settings root t caller := by
  rw [sites_ofTree] at h
  obtain ⟨u, hu, hp⟩ := List.mem_flatMap.mp h
  have hreached := Reached.of_mem_walk hu
  rw [placed_eq hreached] at hp
  obtain ⟨s, hs, rfl⟩ := List.mem_map.mp hp
  cases u with
  | nil => cases hs
  | cons v around =>
    have hspace := space_mem_spaces hreached
    obtain ⟨ht, hc⟩ := getElem?_spaceNumber hspace
    refine ⟨space around, context settings root (space around), ht, hc, ?_⟩
    rintro (m | k) hcaller
    · exact Context.knows_method hspace (hreached.definedIn_of_caller hcaller)
    · have hcode : v.2.isCode = true := by
        by_contra hcode
        have hcall : v.2.isCall settings ≠ true := fun h => hcode (Visit.isCode_of_isCall h)
        rw [Trail.sites, if_neg hcall] at hs
        cases hs
      obtain ⟨_, _, r, -, -, hr⟩ := exists_registration_of_caller hreached hcode hcaller
      exact ⟨r, hr⟩

end Index

/-! ## Call graphs -/

namespace CallGraph

/-- Triggers have each name once, and lead from methods to callbacks, each once, of a namespace. -/
structure Linked (c : Context) (ts : List (String × List Nat)) : Prop where
  /-- Every name has one list. -/
  namesOnce : (ts.map (·.1)).Nodup
  /-- The names are those of methods. -/
  methods : ∀ t ∈ ts, c.hasMethod t.1 = true
  /-- Every callback comes once. -/
  once : ∀ t ∈ ts, t.2.Nodup
  /-- The numbers are those of callbacks. -/
  callbacks : ∀ t ∈ ts, ∀ k ∈ t.2, ∃ r, c.callbacks[k]? = some r

theorem map_fst_link (number : Nat) (name : String) (ts : List (String × List Nat)) :
    (link number name ts).map (·.1) = insertNew (ts.map (·.1)) name := by
  induction ts with
  | nil => rfl
  | cons t ts ih =>
    obtain ⟨n, numbers⟩ := t
    rw [link]
    by_cases hn : n = name
    · have hcontains : (n :: ts.map (·.1)).contains name = true := by simp [hn]
      rw [if_pos hn, List.map_cons, List.map_cons, insertNew.eq_def (n :: _), if_pos hcontains]
    · rw [if_neg hn, List.map_cons, ih, List.map_cons, insertNew, insertNew]
      have hcontains : (n :: ts.map (·.1)).contains name = (ts.map (·.1)).contains name := by
        simp [Ne.symm hn]
      rw [hcontains]
      split <;> rfl

theorem mem_link {number : Nat} {name : String} {ts : List (String × List Nat)}
    {t : String × List Nat} (h : t ∈ link number name ts) :
    t ∈ ts ∨ ∃ numbers, (numbers = [] ∨ (name, numbers) ∈ ts) ∧
      t = (name, insertNew numbers number) := by
  induction ts with
  | nil => exact .inr ⟨[], .inl rfl, List.mem_singleton.mp h⟩
  | cons u ts ih =>
    obtain ⟨n, numbers⟩ := u
    rw [link] at h
    by_cases hn : n = name
    · subst hn
      rw [if_pos rfl] at h
      rcases List.mem_cons.mp h with rfl | h
      · exact .inr ⟨numbers, .inr List.mem_cons_self, rfl⟩
      · exact .inl (List.mem_cons_of_mem _ h)
    · rw [if_neg hn] at h
      rcases List.mem_cons.mp h with rfl | h
      · exact .inl List.mem_cons_self
      · rcases ih h with h | ⟨numbers', hnumbers, rfl⟩
        · exact .inl (List.mem_cons_of_mem _ h)
        · exact .inr ⟨numbers', hnumbers.imp_right (List.mem_cons_of_mem _), rfl⟩

/-- One more link from a method to a callback. -/
theorem Linked.link {c : Context} {ts : List (String × List Nat)} (h : Linked c ts) {number : Nat}
    {name : String} (hname : c.hasMethod name = true)
    (hnumber : ∃ r, c.callbacks[number]? = some r) :
    Linked c (CallGraph.link number name ts) where
  namesOnce := by
    rw [map_fst_link]
    exact nodup_insertNew h.namesOnce
  methods t ht := by
    rcases mem_link ht with ht | ⟨_, -, rfl⟩
    · exact h.methods t ht
    · exact hname
  once t ht := by
    rcases mem_link ht with ht | ⟨numbers, rfl | hmem, rfl⟩
    · exact h.once t ht
    · exact nodup_insertNew List.nodup_nil
    · exact nodup_insertNew (h.once _ hmem)
  callbacks t ht k hk := by
    rcases mem_link ht with ht | ⟨numbers, hnumbers, rfl⟩
    · exact h.callbacks t ht k hk
    · rcases mem_insertNew.mp hk with hk | rfl
      · rcases hnumbers with rfl | hmem
        · cases hk
        · exact h.callbacks _ hmem k hk
      · exact hnumber

theorem Linked.foldl_link {c : Context} {links : List (Nat × String)}
    {ts : List (String × List Nat)} (h : Linked c ts)
    (hlinks : ∀ l ∈ links, c.hasMethod l.2 = true ∧ ∃ r, c.callbacks[l.1]? = some r) :
    Linked c (links.foldl (fun ts l => CallGraph.link l.1 l.2 ts) ts) := by
  induction links generalizing ts with
  | nil => exact h
  | cons l links ih =>
    obtain ⟨⟨hname, hnumber⟩, hrest⟩ := List.forall_mem_cons.mp hlinks
    exact ih (h.link hname hnumber) hrest

/-- A call graph refers to the methods and callbacks of its namespace. -/
structure WellFormed (c : Context) (g : CallGraph) : Prop where
  /-- The nodes are the names of the methods, in order. -/
  nodes : g.nodes = c.methods.map (·.name)
  /-- An edge leads from a method to a method. -/
  edges : ∀ e ∈ g.edges, c.hasMethod e.1 = true ∧ c.hasMethod e.2 = true
  /-- The triggers lead from methods to callbacks. -/
  triggers : Linked c g.triggers

/-- If the callers of a namespace are methods and callbacks of it, its call graph is
well-formed. -/
theorem wellFormed {c : Context}
    (hmethods : ∀ call ∈ c.calls, ∀ m, call.caller = .method m → c.hasMethod m.name = true)
    (hcallbacks : ∀ call ∈ c.calls, ∀ k, call.caller = .callback k →
      ∃ r, c.callbacks[k]? = some r) :
    (ofContext c).WellFormed c := by
  have hedges : ∀ e ∈ (ofContext c).edges, c.hasMethod e.1 = true ∧ c.hasMethod e.2 = true := by
    rintro ⟨a, b⟩ he
    obtain ⟨hb, call, hcall, m, hcaller, rfl, -⟩ := mem_edges.mp he
    exact ⟨hmethods call hcall m hcaller, hb⟩
  refine ⟨?_, hedges, ?_⟩
  · refine foldl_insertNew_of_subset fun a ha => ?_
    obtain ⟨e, he, rfl⟩ := List.mem_map.mp ha
    exact Context.hasMethod_iff.mp (hedges e he).1
  · refine Linked.foldl_link ⟨List.nodup_nil, by simp, by simp, by simp⟩ fun l hl => ?_
    rcases List.mem_append.mp hl with hl | hl
    · obtain ⟨call, hcall, hcaller, hname⟩ := mem_callLinks.mp hl
      obtain ⟨hcall, hmethod⟩ := List.mem_filter.mp hcall
      exact ⟨hname ▸ hmethod, hcallbacks call hcall l.1 hcaller⟩
    · obtain ⟨hnamed, hmethod⟩ := List.mem_filter.mp hl
      obtain ⟨r, hr, -⟩ := mem_namedLinks.mp hnamed
      exact ⟨hmethod, r, hr⟩

end CallGraph

/-- **Indexes refer to what they hold.** In each namespace the methods are defined there, each name
once, and the calls are made by them and by the callbacks; each site has its namespace and a caller
from it; and the call graph of each namespace knows its methods and callbacks only. -/
theorem index_wellFormed (settings : Settings) (root : Node) :
    let index := Index.ofTree settings root
    List.Forall₂ (Context.WellFormed settings root) (spaces settings root) index.contexts ∧
      (∀ p ∈ index.sites, ∃ t c, (spaces settings root)[p.context]? = some t ∧
        index.contexts[p.context]? = some c ∧
        ∀ caller, p.caller = some caller → c.Knows settings root t caller) ∧
      ∀ c ∈ index.contexts, (CallGraph.ofContext c).WellFormed c := by
  refine ⟨?_, fun p hp => Index.knows_caller hp, fun c hc => ?_⟩
  · rw [contexts_ofTree, List.forall₂_map_right_iff, List.forall₂_same]
    exact fun t ht => Context.wellFormed ht
  · rw [contexts_ofTree] at hc
    obtain ⟨t, ht, rfl⟩ := List.mem_map.mp hc
    have hcalls := (Context.wellFormed ht).calls
    refine CallGraph.wellFormed (fun call hcall m hcaller => ?_) fun call hcall k hcaller => ?_
    · have hknows := hcalls call hcall
      rw [hcaller] at hknows
      exact hknows.2
    · have hknows := hcalls call hcall
      rw [hcaller] at hknows
      exact hknows

end LocaleKeys

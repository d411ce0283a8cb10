import LocaleKeys.Proofs.CallGraph

/-!
# Proofs: indexes

What holds of every namespace of an index, however the file looks.
-/

namespace LocaleKeys

namespace Context

/-! ## Methods -/

@[simp]
theorem directed_name (directives : List (String × Visibility)) (m : MethodDef) :
    (directed directives m).name = m.name := by
  unfold directed
  split <;> rfl

/-- A definition takes the place of an earlier one, so that its name still comes once. -/
theorem nodup_names_addMethod {methods : List MethodDef} (m : MethodDef)
    (h : (methods.map (·.name)).Nodup) : ((addMethod methods m).map (·.name)).Nodup := by
  have hkept : ((methods.filter (·.name ≠ m.name)).map (·.name)).Nodup :=
    h.sublist (List.filter_sublist.map _)
  rw [addMethod, List.map_append, List.nodup_append]
  refine ⟨hkept, List.nodup_singleton _, fun a ha b hb hab => ?_⟩
  obtain ⟨m', hm', rfl⟩ := List.mem_map.mp ha
  have hne : m'.name ≠ m.name := of_decide_eq_true (List.mem_filter.mp hm').2
  exact hne (hab.trans (List.mem_singleton.mp hb))

theorem nodup_names_foldl_addMethod (definitions : List MethodDef) {methods : List MethodDef}
    (h : (methods.map (·.name)).Nodup) :
    ((definitions.foldl addMethod methods).map (·.name)).Nodup := by
  induction definitions generalizing methods with
  | nil => exact h
  | cons m definitions ih => exact ih (nodup_names_addMethod m h)

/-- A namespace made from a body has each name once. -/
theorem namesOnce_ofBody (space : Space) (body : List Item) : (ofBody space body).NamesOnce := by
  have hnames : (ofBody space body).methods.map (·.name) =
      ((Item.definitionsAll body).foldl addMethod []).map (·.name) := by
    simp [ofBody, Function.comp_def]
  rw [NamesOnce, hnames]
  exact nodup_names_foldl_addMethod _ List.nodup_nil

end Context

/-! ## Sites -/

namespace Item

mutual

/-- The call sites of an item, whoever makes the calls. -/
def siteList : Item → List Site
  | .space _ body => siteListAll body
  | .owned _ body => siteListAll body
  | .site s => [s]
  | _ => []

/-- The call sites of items, whoever makes the calls. -/
def siteListAll : List Item → List Site
  | [] => []
  | i :: is => i.siteList ++ siteListAll is

end

theorem siteListAll_eq (is : List Item) : siteListAll is = is.flatMap siteList := by
  induction is with
  | nil => rfl
  | cons i is ih => rw [siteListAll, ih, List.flatMap_cons]

mutual

theorem map_site_sites (here spaces callbacks : Nat) (caller : Option Caller) (i : Item) :
    (i.sites here spaces callbacks caller).map (·.site) = i.siteList := by
  match i with
  | .space s body => exact map_site_sitesAll _ _ _ _ body
  | .owned owner body => exact map_site_sitesAll _ _ _ _ body
  | .site s => rfl
  | .directive .. | .bareCall .. => rfl

/-- An index has the call sites of its outline, in the same order. -/
theorem map_site_sitesAll (here spaces callbacks : Nat) (caller : Option Caller)
    (is : List Item) :
    (sitesAll here spaces callbacks caller is).map (·.site) = siteListAll is := by
  match is with
  | [] => rfl
  | i :: is => rw [sitesAll, List.map_append, map_site_sites, map_site_sitesAll, siteListAll]

end

end Item

/-! ## Counting namespaces -/

namespace Item

mutual

theorem length_contexts (outer : Space) (i : Item) :
    (i.contexts outer).length = i.spaceCount := by
  match i with
  | .space s body => rw [contexts, List.length_cons, length_contextsAll, spaceCount]
  | .owned owner body => rw [contexts, length_contextsAll, spaceCount]
  | .directive .. | .bareCall .. | .site .. => rfl

theorem length_contextsAll (outer : Space) (is : List Item) :
    (contextsAll outer is).length = spaceCountAll is := by
  match is with
  | [] => rfl
  | i :: is =>
    rw [contextsAll, List.length_append, length_contexts, length_contextsAll, spaceCountAll]

end

end Item

/-! ## Items one after another -/

namespace Item

theorem registrationsAll_append (xs ys : List Item) :
    registrationsAll (xs ++ ys) = registrationsAll xs ++ registrationsAll ys := by
  induction xs with
  | nil => rfl
  | cons x xs ih => rw [List.cons_append, registrationsAll, registrationsAll, ih, List.append_assoc]

theorem contextsAll_append (outer : Space) (xs ys : List Item) :
    contextsAll outer (xs ++ ys) = contextsAll outer xs ++ contextsAll outer ys := by
  induction xs with
  | nil => rfl
  | cons x xs ih => rw [List.cons_append, contextsAll, contextsAll, ih, List.append_assoc]

/-- Sites are numbered after the namespaces and callbacks before them. -/
theorem sitesAll_append (here spaces callbacks : Nat) (caller : Option Caller) (xs ys : List Item) :
    sitesAll here spaces callbacks caller (xs ++ ys) =
      sitesAll here spaces callbacks caller xs ++
        sitesAll here (spaces + spaceCountAll xs) (callbacks + (registrationsAll xs).length) caller
          ys := by
  induction xs generalizing spaces callbacks with
  | nil => rfl
  | cons x xs ih =>
    rw [List.cons_append, sitesAll, sitesAll, ih, List.append_assoc, spaceCountAll,
      registrationsAll, List.length_append, Nat.add_assoc, Nat.add_assoc]

/-- Is an item without items inside? -/
def isFlat : Item → Bool
  | .space .. | .owned .. => false
  | _ => true

theorem registrationsAll_of_isFlat {is : List Item} (h : ∀ i ∈ is, i.isFlat = true) :
    registrationsAll is = [] := by
  induction is with
  | nil => rfl
  | cons i is ih =>
    obtain ⟨hi, his⟩ := List.forall_mem_cons.mp h
    rw [registrationsAll, ih his]
    cases i with
    | space | owned => cases hi
    | directive | bareCall | site => rfl

theorem contextsAll_of_isFlat {outer : Space} {is : List Item} (h : ∀ i ∈ is, i.isFlat = true) :
    contextsAll outer is = [] := by
  induction is with
  | nil => rfl
  | cons i is ih =>
    obtain ⟨hi, his⟩ := List.forall_mem_cons.mp h
    rw [contextsAll, ih his]
    cases i with
    | space | owned => cases hi
    | directive | bareCall | site => rfl

theorem spaceCountAll_of_isFlat {is : List Item} (h : ∀ i ∈ is, i.isFlat = true) :
    spaceCountAll is = 0 := by
  rw [← length_contextsAll Space.root, contextsAll_of_isFlat h]
  rfl

theorem sitesAll_of_isFlat {is : List Item} (h : ∀ i ∈ is, i.isFlat = true)
    (here spaces callbacks : Nat) (caller : Option Caller) :
    sitesAll here spaces callbacks caller is =
      (siteListAll is).map fun s => ⟨here, caller, s⟩ := by
  induction is generalizing spaces callbacks with
  | nil => rfl
  | cons i is ih =>
    obtain ⟨hi, his⟩ := List.forall_mem_cons.mp h
    rw [sitesAll, ih his, siteListAll, List.map_append]
    cases i with
    | space | owned => cases hi
    | directive | bareCall | site => rfl

end Item

/-! ## Namespaces -/

namespace Item

mutual

/-- Every namespace of an item is made from a body. -/
theorem exists_ofBody (outer : Space) (i : Item) :
    ∀ c ∈ i.contexts outer, ∃ space body, c = Context.ofBody space body := by
  intro c hc
  match i with
  | .space s body =>
    rw [contexts] at hc
    rcases List.mem_cons.mp hc with rfl | hc
    · exact ⟨_, _, rfl⟩
    · exact exists_ofBody_all (outer.within s) body c hc
  | .owned owner body => exact exists_ofBody_all outer body c hc
  | .directive .. | .bareCall .. | .site .. => cases hc

/-- Every namespace of items is made from a body. -/
theorem exists_ofBody_all (outer : Space) (is : List Item) :
    ∀ c ∈ contextsAll outer is, ∃ space body, c = Context.ofBody space body := by
  intro c hc
  match is with
  | [] => cases hc
  | i :: is =>
    rw [contextsAll] at hc
    rcases List.mem_append.mp hc with hc | hc
    · exact exists_ofBody outer i c hc
    · exact exists_ofBody_all outer is c hc

end

end Item

/-- Every namespace of an index has each name once. -/
theorem Index.namesOnce {outline : Outline} {c : Context}
    (h : c ∈ (Index.ofOutline outline).contexts) : c.NamesOnce := by
  have hbody : ∃ space body, c = Context.ofBody space body := by
    rcases List.mem_cons.mp h with rfl | h
    · exact ⟨_, _, rfl⟩
    · exact Item.exists_ofBody_all _ _ c h
  obtain ⟨space, body, rfl⟩ := hbody
  exact Context.namesOnce_ofBody space body

end LocaleKeys

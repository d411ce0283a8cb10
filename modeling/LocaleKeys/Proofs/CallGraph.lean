import LocaleKeys.CallGraph
import LocaleKeys.Proofs.Search

/-!
# Proofs: call graphs

What the methods and callbacks of a namespace have to do with each other, said without the graph:
who calls whom, which callbacks call a method, and which actions reach a call. The graph agrees with
it: its cycle check stops exactly at the graphs with a cycle, and where it does not stop, the search
along callers finds exactly the actions that reach a method.
-/

namespace LocaleKeys

open Relation

namespace Context

/-- A definition named `a` calls the method `b` of the namespace. -/
def Calls (c : Context) (a b : String) : Prop :=
  c.hasMethod b = true ∧
    ∃ call ∈ c.calls, ∃ m, call.caller = .method m ∧ m.name = a ∧ call.name = b

/-- No method can reach itself by calls. -/
def Acyclic (c : Context) : Prop := ∀ a, ¬ TransGen c.Calls a a

/-- There is a method with this name that everyone may call. -/
def IsPublic (c : Context) (a : String) : Prop :=
  ∃ m ∈ c.methods, m.name = a ∧ m.visibility = .pub

/-- The callback with a number calls the method `q` of the namespace: it lists it, or its own code
calls it. -/
def Triggers (c : Context) (number : Nat) (q : String) : Prop :=
  c.hasMethod q = true ∧
    ((∃ r, c.callbacks[number]? = some r ∧ q ∈ r.methods) ∨
      ∃ call ∈ c.calls, call.caller = .callback number ∧ call.name = q)

/-- A callback runs for the action `a`. If it is limited to actions, `a` has to be one of them;
otherwise `a` is a public method, and none of those that are left out. A limit that is not known
allows nothing. -/
def Allows (c : Context) (r : Registration) (a : String) : Prop :=
  match r.only with
  | some only => ∃ names, only.names? = some names ∧ a ∈ names
  | none => c.IsPublic a ∧ ∀ except, r.except = some except →
      ∃ names, except.names? = some names ∧ a ∉ names

/-- The action `a` reaches what the caller does. A method is reached from the public methods that
lead to it by calls, and from the actions for which a callback runs that calls a method which leads
to it. -/
def ReachedFrom (c : Context) (a : String) : Option Caller → Prop
  | some (.method m) =>
    c.IsPublic a ∧ ReflTransGen c.Calls a m.name ∨
      ∃ number r q, c.callbacks[number]? = some r ∧ c.Triggers number q ∧
        ReflTransGen c.Calls q m.name ∧ c.Allows r a
  | some (.callback number) => ∃ r, c.callbacks[number]? = some r ∧ c.Allows r a
  | none => False

/-- Every name belongs to one method only. -/
def NamesOnce (c : Context) : Prop := (c.methods.map (·.name)).Nodup

theorem hasMethod_iff {c : Context} {name : String} :
    c.hasMethod name = true ↔ name ∈ c.methods.map (·.name) := by
  simp [hasMethod]

end Context

namespace CallGraph

/-! ## Lists that hold each element once -/

section InsertNew

variable {α : Type} [DecidableEq α]

theorem mem_insertNew {xs : List α} {x y : α} : y ∈ insertNew xs x ↔ y ∈ xs ∨ y = x := by
  unfold insertNew
  by_cases h : x ∈ xs
  · rw [if_pos (List.contains_iff_mem.mpr h)]
    exact ⟨Or.inl, fun hy => hy.elim id fun hyx => hyx ▸ h⟩
  · rw [if_neg (by simpa using h), List.mem_append, List.mem_singleton]

theorem nodup_insertNew {xs : List α} {x : α} (h : xs.Nodup) : (insertNew xs x).Nodup := by
  unfold insertNew
  by_cases hx : x ∈ xs
  · rwa [if_pos (List.contains_iff_mem.mpr hx)]
  · rw [if_neg (by simpa using hx)]
    exact List.nodup_append.mpr ⟨h, List.nodup_singleton x, fun a ha b hb hab =>
      hx (List.mem_singleton.mp hb ▸ hab ▸ ha)⟩

theorem mem_foldl_insertNew {xs ys : List α} {y : α} :
    y ∈ ys.foldl insertNew xs ↔ y ∈ xs ∨ y ∈ ys := by
  induction ys generalizing xs with
  | nil => simp
  | cons z ys ih => rw [List.foldl_cons, ih, mem_insertNew, List.mem_cons, or_assoc]

theorem nodup_foldl_insertNew {xs ys : List α} (h : xs.Nodup) : (ys.foldl insertNew xs).Nodup := by
  induction ys generalizing xs with
  | nil => exact h
  | cons z ys ih => exact ih (nodup_insertNew h)

/-- A list that has all elements already stays as it is. -/
theorem foldl_insertNew_of_subset {xs ys : List α}
    (h : ∀ y ∈ ys, y ∈ xs) : ys.foldl insertNew xs = xs := by
  induction ys with
  | nil => rfl
  | cons y ys ih =>
    obtain ⟨hy, hys⟩ := List.forall_mem_cons.mp h
    rw [List.foldl_cons, insertNew, if_pos (List.contains_iff_mem.mpr hy), ih hys]

end InsertNew

/-! ## Edges -/

variable {c : Context}

theorem mem_callEdges {calls : List BareCall} {a b : String} :
    (a, b) ∈ callEdges calls ↔
      ∃ call ∈ calls, ∃ m, call.caller = .method m ∧ m.name = a ∧ call.name = b := by
  rw [callEdges, List.mem_filterMap]
  refine ⟨fun ⟨call, hcall, h⟩ => ?_, fun ⟨call, hcall, m, hm, hma, hb⟩ => ?_⟩
  · cases hcaller : call.caller with
    | callback number => rw [hcaller] at h; cases h
    | method m =>
      rw [hcaller] at h
      cases h
      exact ⟨call, hcall, m, hcaller, rfl, rfl⟩
  · exact ⟨call, hcall, by rw [hm, ← hma, ← hb]⟩

/-- The edges of the graph are the calls among methods. -/
theorem mem_edges {a b : String} : (a, b) ∈ (ofContext c).edges ↔ c.Calls a b := by
  show (a, b) ∈ (callEdges _).foldl insertNew [] ↔ _
  rw [mem_foldl_insertNew, mem_callEdges]
  constructor
  · rintro (h | ⟨call, hcall, m, hm, hma, hb⟩)
    · cases h
    · obtain ⟨hcall, hmethod⟩ := List.mem_filter.mp hcall
      exact ⟨hb ▸ hmethod, call, hcall, m, hm, hma, hb⟩
  · rintro ⟨hmethod, call, hcall, m, hm, hma, hb⟩
    exact Or.inr ⟨call, List.mem_filter.mpr ⟨hcall, by rw [hb]; exact hmethod⟩, m, hm, hma, hb⟩

theorem mem_callees {a b : String} : b ∈ (ofContext c).callees a ↔ c.Calls a b := by
  rw [callees, List.mem_map]
  refine ⟨fun ⟨e, he, heb⟩ => ?_, fun h => ⟨(a, b), ?_, rfl⟩⟩
  · obtain ⟨he, hea⟩ := List.mem_filter.mp he
    rw [← mem_edges, ← of_decide_eq_true hea, ← heb]
    exact he
  · exact List.mem_filter.mpr ⟨mem_edges.mpr h, by simp⟩

theorem mem_callers {a b : String} : b ∈ (ofContext c).callers a ↔ c.Calls b a := by
  rw [callers, List.mem_map]
  refine ⟨fun ⟨e, he, heb⟩ => ?_, fun h => ⟨(b, a), ?_, rfl⟩⟩
  · obtain ⟨he, hea⟩ := List.mem_filter.mp he
    rw [← mem_edges, ← of_decide_eq_true hea, ← heb]
    exact he
  · exact List.mem_filter.mpr ⟨mem_edges.mpr h, by simp⟩

theorem mem_nodes_of_calls {a b : String} (h : c.Calls a b) :
    a ∈ (ofContext c).nodes ∧ b ∈ (ofContext c).nodes := by
  have hnodes : ∀ x, x ∈ (ofContext c).nodes ↔
      x ∈ c.methods.map (·.name) ∨ x ∈ (ofContext c).edges.map (·.1) :=
    fun x => mem_foldl_insertNew
  rw [hnodes, hnodes]
  exact ⟨Or.inr (List.mem_map.mpr ⟨(a, b), mem_edges.mpr h, rfl⟩),
    Or.inl (Context.hasMethod_iff.mp h.1)⟩

/-- Calls lead from the nodes of the graph to nodes of it. -/
theorem callees_closed : ∀ a ∈ (ofContext c).nodes, ∀ b ∈ (ofContext c).callees a,
    b ∈ (ofContext c).nodes :=
  fun _ _ _ hb => (mem_nodes_of_calls (mem_callees.mp hb)).2

/-- Callers are nodes of the graph, also those of a name that is not. -/
theorem callers_closed (name : String) : ∀ a ∈ name :: (ofContext c).nodes,
    ∀ b ∈ (ofContext c).callers a, b ∈ name :: (ofContext c).nodes :=
  fun _ _ _ hb => List.mem_cons_of_mem _ (mem_nodes_of_calls (mem_callers.mp hb)).1

/-- A search may go through all nodes and one more. -/
theorem length_cons_lt_depth (g : CallGraph) (name : String) :
    (name :: g.nodes).length < g.depth := by
  rw [depth, List.length_cons]
  omega

theorem length_lt_depth (g : CallGraph) : g.nodes.length < g.depth := by
  rw [depth]
  omega

/-- A step along callees is a call. -/
theorem next_callees : Search.Next (ofContext c).callees = c.Calls := by
  funext a b
  exact propext mem_callees

/-- A step along callers is a call, taken backwards. -/
theorem next_callers : Search.Next (ofContext c).callers = Function.swap c.Calls := by
  funext a b
  exact propext mem_callers

/-! ## The cycle check -/

/-- The check for cycles reports a cycle, or there is none. -/
theorem cycle?_spec (c : Context) :
    (∃ cycle, (ofContext c).cycle? = some cycle ∧
        Search.IsCycle (ofContext c).callees cycle) ∨
      ((ofContext c).cycle? = none ∧ c.Acyclic) := by
  rcases Search.visitAll_spec (fun _ s => s) callees_closed (length_lt_depth (ofContext c)) ()
    (fun a ha => ha) with ⟨cycle, hres, hcycle⟩ | ⟨after, hres, hfree⟩
  · exact Or.inl ⟨cycle, by rw [cycle?, hres], hcycle⟩
  · refine Or.inr ⟨by rw [cycle?, hres], fun a ha => ?_⟩
    -- a node on a cycle makes a call, so that the check starts from it too
    obtain ⟨b, hab, -⟩ := TransGen.head'_iff.mp ha
    rw [← next_callees] at ha
    exact hfree a (mem_nodes_of_calls hab).1 ha

/-- The check for cycles finds none exactly if there is none. -/
theorem cycle?_eq_none_iff : (ofContext c).cycle? = none ↔ c.Acyclic := by
  rcases cycle?_spec c with ⟨cycle, hres, hcycle⟩ | ⟨hres, hacyclic⟩
  · rw [hres]
    refine ⟨fun h => by simp at h, fun h => ?_⟩
    obtain ⟨a, ha⟩ := hcycle.exists_transGen
    rw [next_callees] at ha
    exact absurd ha (h a)
  · exact ⟨fun _ => hacyclic, fun _ => hres⟩

/-! ## Callbacks -/

theorem mem_lookup_link {ts : List (String × List Nat)} {number number' : Nat}
    {name name' : String} :
    number' ∈ ((link number name ts).lookup name').getD [] ↔
      number' ∈ (ts.lookup name').getD [] ∨ number' = number ∧ name' = name := by
  induction ts with
  | nil =>
    by_cases h : name' = name
    · simp [link, h]
    · have hbeq : (name' == name) = false := by simpa using h
      simp [link, List.lookup_cons, hbeq, h]
  | cons t ts ih =>
    obtain ⟨n, numbers⟩ := t
    rw [link]
    by_cases hn : n = name
    · subst hn
      rw [if_pos rfl]
      by_cases h : name' = n
      · simp [h, mem_insertNew]
      · have hbeq : (name' == n) = false := by simpa using h
        simp [List.lookup_cons, hbeq, h]
    · rw [if_neg hn]
      by_cases h : name' = n
      · have hne : name' ≠ name := h ▸ hn
        simp [h, hn]
      · have hbeq : (name' == n) = false := by simpa using h
        simp only [List.lookup_cons, hbeq]
        exact ih

theorem mem_lookup_foldl_link {links : List (Nat × String)} {ts : List (String × List Nat)}
    {number : Nat} {name : String} :
    number ∈ ((links.foldl (fun ts l => link l.1 l.2 ts) ts).lookup name).getD [] ↔
      number ∈ (ts.lookup name).getD [] ∨ (number, name) ∈ links := by
  induction links generalizing ts with
  | nil => simp
  | cons l links ih =>
    rw [List.foldl_cons, ih, mem_lookup_link, List.mem_cons, or_assoc, Prod.ext_iff]

theorem mem_namedLinks {callbacks : List Registration} {number : Nat} {name : String} :
    (number, name) ∈ namedLinks callbacks ↔
      ∃ r, callbacks[number]? = some r ∧ name ∈ r.methods := by
  rw [namedLinks, List.mem_flatMap]
  constructor
  · rintro ⟨⟨r, i⟩, hr, h⟩
    obtain ⟨n, hn, hin⟩ := List.mem_map.mp h
    cases hin
    exact ⟨r, List.mem_zipIdx_iff_getElem?.mp hr, hn⟩
  · rintro ⟨r, hr, hname⟩
    exact ⟨(r, number), List.mem_zipIdx_iff_getElem?.mpr hr, List.mem_map.mpr ⟨name, hname, rfl⟩⟩

theorem mem_callLinks {calls : List BareCall} {number : Nat} {name : String} :
    (number, name) ∈ callLinks calls ↔
      ∃ call ∈ calls, call.caller = .callback number ∧ call.name = name := by
  rw [callLinks, List.mem_filterMap]
  refine ⟨fun ⟨call, hcall, h⟩ => ?_, fun ⟨call, hcall, hcaller, hname⟩ => ?_⟩
  · cases hcaller : call.caller with
    | method m => rw [hcaller] at h; cases h
    | callback number =>
      rw [hcaller] at h
      cases h
      exact ⟨call, hcall, hcaller, rfl⟩
  · exact ⟨call, hcall, by rw [hcaller, ← hname]⟩

/-- The graph knows which callbacks call a method. -/
theorem mem_callbacksOf {number : Nat} {q : String} :
    number ∈ (ofContext c).callbacksOf q ↔ c.Triggers number q := by
  rw [callbacksOf, ofContext]
  simp only
  rw [mem_lookup_foldl_link, List.mem_append, mem_callLinks, List.mem_filter, mem_namedLinks]
  constructor
  · rintro (h | ⟨call, hcall, hcaller, hname⟩ | ⟨hr, hmethod⟩)
    · cases h
    · obtain ⟨hcall, hmethod⟩ := List.mem_filter.mp hcall
      exact ⟨hname ▸ hmethod, Or.inr ⟨call, hcall, hcaller, hname⟩⟩
    · exact ⟨hmethod, Or.inl hr⟩
  · rintro ⟨hmethod, hr | ⟨call, hcall, hcaller, hname⟩⟩
    · exact Or.inr (Or.inr ⟨hr, hmethod⟩)
    · refine Or.inr (Or.inl ⟨call, List.mem_filter.mpr ⟨hcall, ?_⟩, hcaller, hname⟩)
      rw [hname]
      exact hmethod

/-! ## Actions -/

theorem mem_publicNames {a : String} :
    a ∈ ((ofContext c).methods.filter (·.visibility = .pub)).map (·.name) ↔ c.IsPublic a := by
  rw [List.mem_map]
  refine ⟨fun ⟨m, hm, hma⟩ => ?_, fun ⟨m, hm, hma, hpub⟩ => ⟨m, ?_, hma⟩⟩
  · obtain ⟨hm, hpub⟩ := List.mem_filter.mp hm
    exact ⟨m, hm, hma, of_decide_eq_true hpub⟩
  · exact List.mem_filter.mpr ⟨hm, decide_eq_true hpub⟩

/-- The actions of a callback are those for which it runs. -/
theorem mem_actions {r : Registration} {a : String} :
    a ∈ (ofContext c).actions r ↔ c.Allows r a := by
  unfold actions Context.Allows
  cases r.only with
  | some only => cases h : only.names? <;> simp [mem_foldl_insertNew, h]
  | none =>
    cases r.except with
    | none => simp [← mem_publicNames]
    | some except => cases h : except.names? <;> simp [← mem_publicNames, h]

theorem nodup_actions (hnames : c.NamesOnce) (r : Registration) :
    ((ofContext c).actions r).Nodup := by
  have hpublic : (((ofContext c).methods.filter (·.visibility = .pub)).map (·.name)).Nodup :=
    hnames.sublist (List.filter_sublist.map _)
  unfold actions
  cases r.only with
  | some only => exact nodup_foldl_insertNew List.nodup_nil
  | none =>
    cases r.except with
    | none => exact hpublic.filter _
    | some except =>
      cases h : except.names? with
      | none => simp [h]
      | some names => simpa [h] using hpublic.filter _

theorem mem_actionsOf {number : Nat} {a : String} :
    a ∈ (ofContext c).actionsOf number ↔ ∃ r, c.callbacks[number]? = some r ∧ c.Allows r a := by
  show a ∈ (c.callbacks[number]?.map (ofContext c).actions).getD [] ↔ _
  cases h : c.callbacks[number]? with
  | none => simp
  | some r => simp [mem_actions]

theorem nodup_actionsOf (hnames : c.NamesOnce) (number : Nat) :
    ((ofContext c).actionsOf number).Nodup := by
  show ((c.callbacks[number]?.map (ofContext c).actions).getD []).Nodup
  cases h : c.callbacks[number]? with
  | none => exact List.nodup_nil
  | some r => exact nodup_actions hnames r

/-- What a method adds by itself to the actions that reach it. -/
theorem mem_ownActions {q a : String} :
    a ∈ (ofContext c).ownActions q ↔
      (a = q ∧ c.IsPublic a) ∨
        ∃ number r, c.callbacks[number]? = some r ∧ c.Triggers number q ∧ c.Allows r a := by
  rw [ownActions, List.mem_append, List.mem_flatMap]
  refine or_congr ?_ ?_
  · simp only [List.mem_map, List.mem_filter, Bool.and_eq_true, decide_eq_true_eq]
    constructor
    · rintro ⟨m, ⟨hm, hmq, hpub⟩, hma⟩
      exact ⟨hma ▸ hmq, m, hm, hma, hpub⟩
    · rintro ⟨rfl, m, hm, hma, hpub⟩
      exact ⟨m, ⟨hm, hma, hpub⟩, hma⟩
  · constructor
    · rintro ⟨number, hnumber, ha⟩
      obtain ⟨r, hr, hallows⟩ := mem_actionsOf.mp ha
      exact ⟨number, r, hr, mem_callbacksOf.mp hnumber, hallows⟩
    · rintro ⟨number, r, hr, htriggers, hallows⟩
      exact ⟨number, mem_callbacksOf.mpr htriggers, mem_actionsOf.mpr ⟨r, hr, hallows⟩⟩

/-! ## The search for actions -/

theorem mem_foldl_ownActions {g : CallGraph} {entered found : List String} {a : String} :
    a ∈ entered.foldl (fun s x => (g.ownActions x).foldl insertNew s) found ↔
      a ∈ found ∨ ∃ x ∈ entered, a ∈ g.ownActions x := by
  induction entered generalizing found with
  | nil => simp
  | cons x entered ih =>
    rw [List.foldl_cons, ih, mem_foldl_insertNew, or_assoc]
    simp

theorem nodup_foldl_ownActions {g : CallGraph} {entered found : List String} (h : found.Nodup) :
    (entered.foldl (fun s x => (g.ownActions x).foldl insertNew s) found).Nodup := by
  induction entered generalizing found with
  | nil => exact h
  | cons x entered ih => exact ih (nodup_foldl_insertNew h)

/-- The search for the actions that reach a method reports a cycle, or finds for each method that
leads there by calls what it adds by itself, every action once. -/
theorem roots_spec (c : Context) (name : String) :
    (∃ cycle, (ofContext c).roots name = .error cycle.reverse ∧
        Search.IsCycle (ofContext c).callers cycle) ∨
      ∃ found, (ofContext c).roots name = .ok found ∧ found.Nodup ∧
        ∀ a, a ∈ found ↔ ∃ q, ReflTransGen c.Calls q name ∧ a ∈ (ofContext c).ownActions q := by
  rcases Search.visit_spec (fun x found => ((ofContext c).ownActions x).foldl insertNew found)
    (callers_closed name) (length_cons_lt_depth (ofContext c) name) [] List.mem_cons_self with
    ⟨cycle, hres, hcycle⟩ | ⟨done, entered, hres, hentered⟩
  · exact Or.inl ⟨cycle, by simp only [roots, hres], hcycle⟩
  · refine Or.inr ⟨entered.foldl (fun s x => ((ofContext c).ownActions x).foldl insertNew s) [],
      by simp only [roots, hres], nodup_foldl_ownActions List.nodup_nil, fun a => ?_⟩
    rw [mem_foldl_ownActions]
    simp only [hentered, next_callers, reflTransGen_swap, List.not_mem_nil, false_or]

/-- Without cycles the search for actions ends, and finds exactly those that reach the method. -/
theorem roots_of_acyclic (hacyclic : c.Acyclic) (m : MethodDef) :
    ∃ found, (ofContext c).roots m.name = .ok found ∧ found.Nodup ∧
      ∀ a, a ∈ found ↔ c.ReachedFrom a (some (.method m)) := by
  rcases roots_spec c m.name with ⟨cycle, -, hcycle⟩ | ⟨found, hres, hnodup, hfound⟩
  · obtain ⟨a, ha⟩ := hcycle.exists_transGen
    rw [next_callers, transGen_swap] at ha
    exact absurd ha (hacyclic a)
  · refine ⟨found, hres, hnodup, fun a => ?_⟩
    rw [hfound]
    constructor
    · rintro ⟨q, hq, ha⟩
      rcases mem_ownActions.mp ha with ⟨rfl, hpub⟩ | ⟨number, r, hr, htriggers, hallows⟩
      · exact Or.inl ⟨hpub, hq⟩
      · exact Or.inr ⟨number, r, q, hr, htriggers, hq, hallows⟩
    · rintro (⟨hpub, hq⟩ | ⟨number, r, q, hr, htriggers, hq, hallows⟩)
      · exact ⟨a, hq, mem_ownActions.mpr (Or.inl ⟨rfl, hpub⟩)⟩
      · exact ⟨q, hq, mem_ownActions.mpr (Or.inr ⟨number, r, hr, htriggers, hallows⟩)⟩

end CallGraph

end LocaleKeys

import LocaleKeys.Proofs.CallGraph

/-!
# Proofs: the guards against cycles

Two searches stop at a cycle of calls: the check of a whole graph, which goes along callees, and the
search for the actions that reach a method, which goes along callers. Each stops exactly where it
has to, and both report what went wrong in the same form: the methods along a cycle, in the order of
the calls.
-/

namespace LocaleKeys

open Relation

/-- A cycle of calls as it is reported: from a method by calls back to it, with no method twice on
the way. -/
structure Context.IsCycle (c : Context) (methods : List String) : Prop where
  /-- There is at least one call. -/
  two_le : 2 ≤ methods.length
  /-- It ends where it begins. -/
  closed : methods.head? = methods.getLast?
  /-- Each method calls the one after it. -/
  calls : methods.IsChain c.Calls
  /-- No method but the first one comes twice. -/
  simple : methods.dropLast.Nodup

theorem Context.IsCycle.of_closed {c : Context} {a : String} {mid : List String}
    (hcalls : (a :: mid ++ [a]).IsChain c.Calls) (hsimple : (a :: mid).Nodup) :
    c.IsCycle (a :: mid ++ [a]) where
  two_le := by simp
  closed := by rw [List.getLast?_concat, List.cons_append, List.head?_cons]
  calls := hcalls
  simple := by rwa [List.dropLast_concat]

namespace CallGraph

variable {c : Context} {cycle : List String}

/-- What a search along callees reports is a cycle of calls. -/
theorem isCycle_of_callees (h : Search.IsCycle (ofContext c).callees cycle) : c.IsCycle cycle := by
  have hsteps := h.steps
  have hsimple := h.simple
  rw [next_callees] at hsteps
  obtain ⟨a, mid, rfl⟩ := h.closed
  rw [List.dropLast_concat] at hsimple
  exact .of_closed hsteps hsimple

/-- What a search along callers reports is a cycle of calls, taken backwards. -/
theorem isCycle_of_callers (h : Search.IsCycle (ofContext c).callers cycle) :
    c.IsCycle cycle.reverse := by
  have hsteps := h.steps
  have hsimple := h.simple
  rw [next_callers] at hsteps
  obtain ⟨a, mid, rfl⟩ := h.closed
  have hback : (a :: mid ++ [a]).reverse = a :: mid.reverse ++ [a] := by simp
  have hcalls : (a :: mid ++ [a]).reverse.IsChain c.Calls := List.isChain_reverse.mpr hsteps
  -- the methods on the way are the same ones, in the other order
  rw [List.dropLast_concat, List.nodup_cons] at hsimple
  rw [hback] at hcalls ⊢
  refine .of_closed hcalls (List.nodup_cons.mpr ?_)
  rwa [List.mem_reverse, List.nodup_reverse]

/-- The search for actions stops exactly if a method on a cycle leads to the one it starts from. -/
theorem roots_error_iff (name : String) :
    (∃ methods, (ofContext c).roots name = .error methods) ↔
      ∃ a, TransGen c.Calls a a ∧ ReflTransGen c.Calls a name := by
  have hsearch := Search.visit_error_iff
    (fun x found => ((ofContext c).ownActions x).foldl insertNew found) (callers_closed name)
    (length_cons_lt_depth (ofContext c) name) [] List.mem_cons_self
  simp only [next_callers, reflTransGen_swap, transGen_swap] at hsearch
  have hroots : (∃ methods, (ofContext c).roots name = .error methods) ↔
      ∃ cycle, Search.visit (ofContext c).callers
        (fun x found => ((ofContext c).ownActions x).foldl insertNew found) (ofContext c).depth []
        ([], []) name = .error cycle := by
    rw [roots]
    cases Search.visit (ofContext c).callers
        (fun x found => ((ofContext c).ownActions x).foldl insertNew found) (ofContext c).depth []
        ([], []) name with
    | ok after => simp
    | error cycle => simp
  rw [hroots, hsearch]
  exact exists_congr fun a => and_comm

/-- What the search for actions stops with is a cycle of calls. -/
theorem isCycle_of_roots {name : String} {methods : List String}
    (h : (ofContext c).roots name = .error methods) : c.IsCycle methods := by
  rcases roots_spec c name with ⟨cycle, hres, hcycle⟩ | ⟨found, hres, -⟩
  · rw [hres] at h
    cases h
    exact isCycle_of_callers hcycle
  · rw [hres] at h
    cases h

/-- What the check of a graph reports is a cycle of calls. -/
theorem isCycle_of_cycle? {methods : List String} (h : (ofContext c).cycle? = some methods) :
    c.IsCycle methods := by
  rcases cycle?_spec c with ⟨cycle, hres, hcycle⟩ | ⟨hres, -⟩
  · rw [hres] at h
    cases h
    exact isCycle_of_callees hcycle
  · rw [hres] at h
    cases h

/-- The check of a graph reports something exactly if a method can reach itself. -/
theorem exists_cycle?_eq_some_iff :
    (∃ methods, (ofContext c).cycle? = some methods) ↔ ∃ a, TransGen c.Calls a a := by
  have hnone : (ofContext c).cycle? = none ↔ c.Acyclic := cycle?_eq_none_iff
  rw [Context.Acyclic, ← not_exists] at hnone
  rw [← Option.ne_none_iff_exists', ← not_iff_not, not_not, hnone]

/-- **The guards against cycles are exact.** The edges of a call graph are the calls among the
methods of its namespace. The check of the graph stops exactly if a method can reach itself by
calls; the search for the actions that reach a method stops exactly if a method that can reach
itself leads to this one. Whatever either of them stops with is a cycle of calls, in the order of
the calls. -/
theorem cycle_guards_exact (c : Context) :
    (∀ a b, (a, b) ∈ (ofContext c).edges ↔ c.Calls a b) ∧
      ((∃ methods, (ofContext c).cycle? = some methods) ↔ ∃ a, TransGen c.Calls a a) ∧
      (∀ name, (∃ methods, (ofContext c).roots name = .error methods) ↔
        ∃ a, TransGen c.Calls a a ∧ ReflTransGen c.Calls a name) ∧
      ∀ methods, (ofContext c).cycle? = some methods ∨
        (∃ name, (ofContext c).roots name = .error methods) → c.IsCycle methods := by
  refine ⟨fun a b => mem_edges, exists_cycle?_eq_some_iff, roots_error_iff, ?_⟩
  intro methods h
  rcases h with hcheck | ⟨name, hroots⟩
  · exact isCycle_of_cycle? hcheck
  · exact isCycle_of_roots hroots

end CallGraph

end LocaleKeys

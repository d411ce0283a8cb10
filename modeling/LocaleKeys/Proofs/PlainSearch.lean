import LocaleKeys.Proofs.CallGraph

/-!
# Proofs: searches without memory

A search keeps the nodes from which it has followed all ways, and does not enter them again. The
plain search has no such memory: it carries its path and nothing else, so it follows every way from
every node each time. Nothing bounds it, so it is given by the ends that it comes to. It comes to
exactly one, and that is the end of the search with memory, with the same finds in the same order or
at the same cycle: all ways from a node that is done lead to nodes that are done, none of which is
on the path, and whatever is found there was found before.
-/

namespace LocaleKeys

open Relation

namespace Search

variable {α σ : Type} {next : α → List α} {enter : α → σ → σ} {within : List α}

/-- The plain search from some nodes in turn comes to an end: the state after all of them, or a
cycle. It carries only the path that led to these nodes. -/
inductive Ends [DecidableEq α] (next : α → List α) (enter : α → σ → σ) :
    (path : List α) → (s : σ) → (starts : List α) → Except (List α) σ → Prop where
  /-- There are no nodes left. -/
  | nil (path : List α) (s : σ) : Ends next enter path s [] (.ok s)
  /-- A node on the path closes a cycle. -/
  | cycle {path : List α} (s : σ) {a : α} (starts : List α) (h : a ∈ path) :
      Ends next enter path s (a :: starts) (.error (cycleAt path a))
  /-- A way from a node leads to a cycle. -/
  | stop {path : List α} {s : σ} {a : α} (starts : List α) {found : List α} (h : a ∉ path)
      (hbehind : Ends next enter (a :: path) (enter a s) (next a) (.error found)) :
      Ends next enter path s (a :: starts) (.error found)
  /-- All ways from a node are followed, and then those from the other nodes. -/
  | cons {path : List α} {s mid : σ} {a : α} {starts : List α} {r : Except (List α) σ}
      (h : a ∉ path) (hbehind : Ends next enter (a :: path) (enter a s) (next a) (.ok mid))
      (hrest : Ends next enter path mid starts r) : Ends next enter path s (a :: starts) r

/-- The outcome of a search with memory as that of a plain one. -/
def forget (r : Except (List α) (List α × σ)) : Except (List α) σ := r.map (·.2)

/-- What happens to the state at a node happens to it once: entering a node again changes nothing,
whatever was entered in between. -/
structure Absorbs (enter : α → σ → σ) : Prop where
  /-- Not right after the first time. -/
  again : ∀ a s, enter a (enter a s) = enter a s
  /-- And not after one more node, if it did not before. -/
  kept : ∀ a b s, enter a s = s → enter a (enter b s) = enter b s

theorem Absorbs.kept_foldl (h : Absorbs enter) {a : α} (entered : List α) {s : σ}
    (ha : enter a s = s) :
    enter a (entered.foldl (fun s x => enter x s) s) = entered.foldl (fun s x => enter x s) s := by
  induction entered generalizing s with
  | nil => exact ha
  | cons b entered ih => exact ih (h.kept a b s ha)

theorem Absorbs.mem_foldl (h : Absorbs enter) {a : α} {entered : List α} (ha : a ∈ entered)
    (s : σ) :
    enter a (entered.foldl (fun s x => enter x s) s) = entered.foldl (fun s x => enter x s) s := by
  induction entered generalizing s with
  | nil => cases ha
  | cons b entered ih =>
    rw [List.foldl_cons]
    rcases List.mem_cons.mp ha with rfl | ha
    · exact h.kept_foldl entered (h.again a s)
    · exact ih ha (enter b s)

/-- After a search, nodes that are done change the state no more. -/
theorem Searched.absorbed {path starts entered : List α}
    {before after : List α × σ} (h : Searched next enter path starts before entered after)
    (henter : Absorbs enter) (hbefore : ∀ x ∈ before.1, enter x before.2 = before.2) :
    ∀ x ∈ after.1, enter x after.2 = after.2 := by
  intro x hx
  rw [h.state]
  rcases (h.mem_done x).mp hx with hx | hx
  · exact henter.mem_foldl hx before.2
  · exact henter.kept_foldl entered (hbefore x hx)

variable [DecidableEq α]

namespace Ends

variable {path starts : List α} {s mid : σ} {a : α} {r : Except (List α) σ}

/-- The plain search comes to one end only. -/
theorem unique {r' : Except (List α) σ} (h : Ends next enter path s starts r)
    (h' : Ends next enter path s starts r') : r = r' := by
  induction h generalizing r' with
  | nil path s =>
    cases h'
    rfl
  | cycle s starts h =>
    cases h' with
    | cycle => rfl
    | stop _ hnot | cons hnot => exact absurd h hnot
  | stop starts hnot hbehind ih =>
    cases h' with
    | cycle _ _ h => exact absurd h hnot
    | stop _ _ hbehind' => exact ih hbehind'
    | cons _ hbehind' => cases ih hbehind'
  | cons hnot hbehind hrest ihbehind ihrest =>
    cases h' with
    | cycle _ _ h => exact absurd h hnot
    | stop _ _ hbehind' => cases ihbehind hbehind'
    | cons _ hbehind' hrest' =>
      obtain rfl := Except.ok.inj (ihbehind hbehind')
      exact ihrest hrest'

/-- What is told of the ends that the plain search comes to is told of the one that is known. -/
theorem exists_iff {β : Type} (h : Ends next enter path s starts r) (f : Except (List α) σ → β)
    (b : β) : (∃ r', Ends next enter path s starts r' ∧ b = f r') ↔ b = f r := by
  constructor
  · rintro ⟨r', hends, rfl⟩
    rw [hends.unique h]
  · rintro rfl
    exact ⟨r, h, rfl⟩

/-- A search that stops at the first of some nodes stops there. -/
theorem stop_of_singleton {found : List α} (h : Ends next enter path s [a] (.error found)) :
    Ends next enter path s (a :: starts) (.error found) := by
  cases h with
  | cycle _ _ h => exact .cycle s starts h
  | stop _ hnot hbehind => exact .stop starts hnot hbehind
  | cons _ _ hrest => cases hrest

/-- A search that gets past the first of some nodes goes on with the others. -/
theorem cons_of_singleton (h : Ends next enter path s [a] (.ok mid))
    (hrest : Ends next enter path mid starts r) : Ends next enter path s (a :: starts) r := by
  cases h with
  | cons hnot hbehind hnil =>
    cases hnil
    exact .cons hnot hbehind hrest

/-- If nothing changes at any of some nodes, nothing changes at all of them in turn. -/
theorem of_unchanged (h : ∀ a ∈ starts, Ends next enter path s [a] (.ok s)) :
    Ends next enter path s starts (.ok s) := by
  induction starts with
  | nil => exact .nil path s
  | cons a starts ih =>
    obtain ⟨ha, hrest⟩ := List.forall_mem_cons.mp h
    exact ha.cons_of_singleton (ih hrest)

end Ends

/-- If two searches agree at each of some nodes, they agree at all of them in turn. -/
theorem ends_foldlM {path : List α} (henter : Absorbs enter)
    {visit : List α × σ → α → Except (List α) (List α × σ)}
    (houtcome : ∀ done s a, Stands next within path done → a ∈ within →
      (∀ b ∈ path.head?, Next next b a) →
      Outcome next enter path [a] (done, s) (visit (done, s) a))
    (hends : ∀ done s a, Stands next within path done → a ∈ within →
      (∀ b ∈ path.head?, Next next b a) → (∀ x ∈ done, enter x s = s) →
      Ends next enter path s [a] (forget (visit (done, s) a)))
    (starts done : List α) (s : σ) (h : Stands next within path done)
    (hwithin : ∀ a ∈ starts, a ∈ within) (hstep : ∀ a ∈ starts, ∀ b ∈ path.head?, Next next b a)
    (hdone : ∀ x ∈ done, enter x s = s) :
    Ends next enter path s starts (forget (starts.foldlM visit (done, s))) := by
  induction starts generalizing done s with
  | nil => exact .nil path s
  | cons a starts ih =>
    obtain ⟨ha, hrest⟩ := List.forall_mem_cons.mp hwithin
    obtain ⟨hstepa, hsteps⟩ := List.forall_mem_cons.mp hstep
    have hout := houtcome done s a h ha hstepa
    have hfirst := hends done s a h ha hstepa hdone
    rw [List.foldlM_cons]
    cases hres : visit (done, s) a with
    | error cycle =>
      rw [hres] at hfirst
      exact hfirst.stop_of_singleton
    | ok mid =>
      rw [hres] at hout hfirst
      obtain ⟨entered, hentered⟩ := hout
      have hstands : Stands next within path mid.1 :=
        ⟨h.chain, h.nodup, h.mem, hentered.apart, hentered.settled⟩
      exact hfirst.cons_of_singleton
        (ih mid.1 mid.2 hstands hrest hsteps (hentered.absorbed henter hdone))

/-- Where all nodes have been entered and none is on the path or on a cycle, the plain search goes
all the way and changes nothing. -/
theorem ends_of_entered (hclosed : ∀ a ∈ within, ∀ b ∈ next a, b ∈ within) (rest : Nat)
    (path : List α) (s : σ) (a : α) (h : Stands next within path []) (ha : a ∈ within)
    (hstep : ∀ b ∈ path.head?, Next next b a) (hrest : within.length < rest + path.length)
    (hpath : ∀ x, ReflTransGen (Next next) a x → x ∉ path)
    (hacyclic : ∀ x, ReflTransGen (Next next) a x → ¬ TransGen (Next next) x x)
    (hentered : ∀ x, ReflTransGen (Next next) a x → enter x s = s) :
    Ends next enter path s [a] (.ok s) := by
  induction rest generalizing path a with
  | zero =>
    have := h.nodup.length_le_of_subset h.mem
    omega
  | succ rest ih =>
    have hself : a ∉ path := hpath a ReflTransGen.refl
    have hstands : Stands next within (a :: path) [] := h.cons ha hstep hself List.not_mem_nil
    refine .cons hself ?_ (.nil path s)
    rw [hentered a ReflTransGen.refl]
    refine .of_unchanged fun b hb => ?_
    have hreach : ∀ x, ReflTransGen (Next next) b x → ReflTransGen (Next next) a x :=
      fun x hx => ReflTransGen.head hb hx
    refine ih (a :: path) b hstands (hclosed a ha b hb) ?_ ?_ ?_
      (fun x hx => hacyclic x (hreach x hx)) fun x hx => hentered x (hreach x hx)
    · rintro p ⟨⟩
      exact hb
    · rw [List.length_cons]
      omega
    · intro x hx hmem
      rcases List.mem_cons.mp hmem with rfl | hmem
      · exact hacyclic x ReflTransGen.refl (TransGen.head' hb hx)
      · exact hpath x (hreach x hx) hmem

/-- The plain search from a node comes to the same end as the search with memory, if there is fuel
for a path through all nodes. -/
theorem ends_visit (henter : Absorbs enter) (hclosed : ∀ a ∈ within, ∀ b ∈ next a, b ∈ within)
    (fuel : Nat) (path done : List α) (s : σ) (a : α) (h : Stands next within path done)
    (ha : a ∈ within) (hstep : ∀ b ∈ path.head?, Next next b a)
    (hfuel : within.length < fuel + path.length) (hdone : ∀ x ∈ done, enter x s = s) :
    Ends next enter path s [a] (forget (visit next enter fuel path (done, s) a)) := by
  induction fuel generalizing path done s a with
  | zero =>
    have := h.nodup.length_le_of_subset h.mem
    omega
  | succ fuel ih =>
    by_cases hpath : a ∈ path
    · rw [visit, if_pos (List.contains_iff_mem.mpr hpath)]
      exact .cycle s [] hpath
    by_cases hmem : a ∈ done
    · -- all ways from here have been followed: the plain search follows them once more
      have hreach : ∀ x, ReflTransGen (Next next) a x → x ∈ done :=
        fun x hx => h.settled.reach hmem hx
      have hstands : Stands next within path [] :=
        ⟨h.chain, h.nodup, h.mem, fun _ _ => List.not_mem_nil, Settled.nil⟩
      rw [visit, if_neg (by simpa using hpath), if_pos (List.contains_iff_mem.mpr hmem)]
      exact ends_of_entered hclosed (fuel + 1) path s a hstands ha hstep hfuel
        (fun x hx hxpath => h.apart x hxpath (hreach x hx))
        (fun x hx => h.settled.acyclic x (hreach x hx)) fun x hx => hdone x (hreach x hx)
    · have hstands : Stands next within (a :: path) done := h.cons ha hstep hpath hmem
      have hlength : within.length < fuel + (a :: path).length := by
        rw [List.length_cons]
        omega
      have hnext := ends_foldlM henter
        (fun done s b hs hb hstep =>
          outcome_visit enter hclosed fuel (a :: path) done s b hs hb hstep hlength)
        (fun done s b hs hb hstep hdone =>
          ih (a :: path) done s b hs hb hstep hlength hdone)
        (next a) done (enter a s) hstands (hclosed a ha) (fun b hb p hp => by cases hp; exact hb)
        fun x hx => henter.kept x a s (hdone x hx)
      rw [visit, if_neg (by simpa using hpath), if_neg (by simpa using hmem)]
      cases hres : (next a).foldlM (visit next enter fuel (a :: path)) (done, enter a s) with
      | error cycle =>
        rw [hres] at hnext
        exact .stop [] hpath hnext
      | ok after =>
        rw [hres] at hnext
        exact .cons hpath hnext (.nil path after.2)

/-- The same for a search from many nodes. -/
theorem ends_visitAll (henter : Absorbs enter)
    (hclosed : ∀ a ∈ within, ∀ b ∈ next a, b ∈ within) {fuel : Nat}
    (hfuel : within.length < fuel) (s : σ) {starts : List α} (hstarts : ∀ a ∈ starts, a ∈ within) :
    Ends next enter [] s starts (forget (visitAll next enter fuel s starts)) :=
  ends_foldlM henter
    (fun done s a hs ha hstep =>
      outcome_visit enter hclosed fuel [] done s a hs ha hstep (by simpa using hfuel))
    (fun done s a hs ha hstep hdone =>
      ends_visit henter hclosed fuel [] done s a hs ha hstep (by simpa using hfuel) hdone)
    starts [] s Stands.start hstarts (by simp) (by simp)

end Search

namespace CallGraph

/-- The plain search along callers ends with the actions that reach a method, or with a cycle. -/
def PlainRoots (g : CallGraph) (name : String) (r : Except (List String) (List String)) : Prop :=
  let enter (name : String) (found : List String) := (g.ownActions name).foldl insertNew found
  ∃ r', Search.Ends g.callers enter [] [] [name] r' ∧ r = r'.mapError List.reverse

/-- The plain search along callees from every node ends at a cycle, or at none. -/
def PlainCycle (g : CallGraph) (r : Option (List String)) : Prop :=
  ∃ r', Search.Ends g.callees (fun _ s => s) [] () g.nodes r' ∧
    r = match r' with
      | .ok _ => none
      | .error cycle => some cycle

/-- The actions of a method are found already if the list holds all of them. -/
theorem foldl_ownActions_eq_iff {g : CallGraph} {name : String} {found : List String} :
    (g.ownActions name).foldl insertNew found = found ↔ ∀ a ∈ g.ownActions name, a ∈ found := by
  refine ⟨fun h a ha => ?_, foldl_insertNew_of_subset⟩
  rw [← h]
  exact mem_foldl_insertNew.mpr (Or.inr ha)

/-- Actions that have been found are not found again. -/
theorem absorbs_ownActions (g : CallGraph) :
    Search.Absorbs fun name found => (g.ownActions name).foldl insertNew found where
  again name found := by
    refine foldl_ownActions_eq_iff.mpr fun a ha => ?_
    exact mem_foldl_insertNew.mpr (Or.inr ha)
  kept name other found h := by
    rw [foldl_ownActions_eq_iff] at h ⊢
    intro a ha
    exact mem_foldl_insertNew.mpr (Or.inl (h a ha))

theorem plainRoots_iff (c : Context) (name : String) (r : Except (List String) (List String)) :
    (ofContext c).PlainRoots name r ↔ r = (ofContext c).roots name := by
  have hsearch := Search.ends_visit (absorbs_ownActions (ofContext c)) (callers_closed name)
    (ofContext c).depth [] [] [] name Search.Stands.start List.mem_cons_self (by simp)
    (length_cons_lt_depth (ofContext c) name) (by simp)
  rw [PlainRoots, hsearch.exists_iff, roots]
  cases Search.visit (ofContext c).callers
      (fun x found => ((ofContext c).ownActions x).foldl insertNew found) (ofContext c).depth []
      ([], []) name with
  | ok after => rfl
  | error cycle => rfl

theorem plainCycle_iff (c : Context) (r : Option (List String)) :
    (ofContext c).PlainCycle r ↔ r = (ofContext c).cycle? := by
  have hsearch := Search.ends_visitAll (σ := Unit) ⟨fun _ _ => rfl, fun _ _ _ _ => rfl⟩
    callees_closed (length_lt_depth (ofContext c)) () fun a ha => ha
  rw [PlainCycle, hsearch.exists_iff, cycle?]
  cases Search.visitAll (ofContext c).callees (fun _ s => s) (ofContext c).depth ()
      (ofContext c).nodes with
  | ok after => rfl
  | error cycle => rfl

/-- **Memory does not change a search.** For every call graph the plain searches come to an end, and
to one only. That along callers finds the actions that the search with memory finds, in the same
order, or stops with the same methods; that along callees finds the same cycle, or none. -/
theorem memory_changes_nothing (c : Context) :
    (∀ name r, (ofContext c).PlainRoots name r ↔ r = (ofContext c).roots name) ∧
      ∀ r, (ofContext c).PlainCycle r ↔ r = (ofContext c).cycle? :=
  ⟨plainRoots_iff c, plainCycle_iff c⟩

end CallGraph

end LocaleKeys

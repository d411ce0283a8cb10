import LocaleKeys.Search
import Mathlib.Data.List.Chain
import Mathlib.Data.List.Nodup
import Mathlib.Logic.Relation

/-!
# Proofs: depth-first search along paths

A search that stops has run into a cycle, and one that comes to an end has entered exactly the nodes
that can be reached. Both hold as long as the fuel exceeds the number of nodes: a path holds no node
twice, so it is the path that uses the fuel up.
-/

namespace LocaleKeys.Search

open Relation

variable {α σ : Type} {next : α → List α} (enter : α → σ → σ)

/-- One step of a search. -/
def Next (next : α → List α) (a b : α) : Prop := b ∈ next a

/-! ## Cycles -/

/-- A cycle as a search reports it: steps that lead from a node back to it and meet no node twice
on the way. -/
structure IsCycle (next : α → List α) (cycle : List α) : Prop where
  closed : ∃ a mid, cycle = a :: mid ++ [a]
  steps : cycle.IsChain (Next next)
  simple : cycle.dropLast.Nodup

/-- The first node of a cycle can be reached from itself. -/
theorem IsCycle.transGen_head {cycle : List α} (h : IsCycle next cycle) {a : α}
    (ha : cycle.head? = some a) : TransGen (Next next) a a := by
  obtain ⟨b, mid, rfl⟩ := h.closed
  obtain rfl : b = a := Option.some.inj ha
  have hsteps := h.steps
  cases mid with
  | nil =>
    have hstep : Next next b b := by simpa using hsteps
    exact TransGen.single hstep
  | cons d mid =>
    have hsteps' : (b :: d :: (mid ++ [b])).IsChain (Next next) := by simpa using hsteps
    rw [List.isChain_cons_cons] at hsteps'
    have hback : ReflTransGen (Next next) d b :=
      List.relationReflTransGen_of_exists_isChain_cons (mid ++ [b]) hsteps'.2 (by simp)
    exact TransGen.head' hsteps'.1 hback

theorem IsCycle.exists_transGen {cycle : List α} (h : IsCycle next cycle) :
    ∃ a, TransGen (Next next) a a := by
  obtain ⟨a, mid, rfl⟩ := h.closed
  exact ⟨a, h.transGen_head rfl⟩

/-! ## The invariant -/

/-- Nodes all ways from which have been followed: they lead to each other only, and not back. -/
structure Settled (next : α → List α) (done : List α) : Prop where
  closed : ∀ a ∈ done, ∀ b ∈ next a, b ∈ done
  acyclic : ∀ a ∈ done, ¬ TransGen (Next next) a a

theorem Settled.nil : Settled next [] := ⟨by simp, by simp⟩

/-- Only settled nodes can be reached from settled ones. -/
theorem Settled.reach {done : List α} (h : Settled next done) {a b : α} (ha : a ∈ done)
    (hab : ReflTransGen (Next next) a b) : b ∈ done := by
  induction hab with
  | refl => exact ha
  | tail _ hstep ih => exact h.closed _ ih _ hstep

/-- A node is settled once all nodes after it are. -/
theorem Settled.cons {done : List α} (h : Settled next done) {a : α} (ha : a ∉ done)
    (hnext : ∀ b ∈ next a, b ∈ done) : Settled next (a :: done) := by
  refine ⟨fun x hx b hb => ?_, fun x hx hcycle => ?_⟩
  · rcases List.mem_cons.mp hx with rfl | hx
    · exact List.mem_cons_of_mem _ (hnext b hb)
    · exact List.mem_cons_of_mem _ (h.closed x hx b hb)
  · rcases List.mem_cons.mp hx with rfl | hx
    · obtain ⟨b, hb, hback⟩ := TransGen.head'_iff.mp hcycle
      exact ha (h.reach (hnext b hb) hback)
    · exact h.acyclic x hx hcycle

/-- Where a search stands: its path, with the last node first, follows the steps among the nodes
`within`, meets none twice and none that is settled. -/
structure Stands (next : α → List α) (within path done : List α) : Prop where
  chain : path.IsChain fun a b => Next next b a
  nodup : path.Nodup
  mem : ∀ a ∈ path, a ∈ within
  apart : ∀ a ∈ path, a ∉ done
  settled : Settled next done

theorem Stands.start {within : List α} : Stands next within [] [] :=
  ⟨List.IsChain.nil, List.nodup_nil, by simp, by simp, Settled.nil⟩

/-- A search that stands somewhere goes on to a new node. -/
theorem Stands.cons {within path done : List α} (h : Stands next within path done) {a : α}
    (ha : a ∈ within) (hstep : ∀ b ∈ path.head?, Next next b a) (hpath : a ∉ path)
    (hdone : a ∉ done) : Stands next within (a :: path) done where
  chain := h.chain.cons hstep
  nodup := List.nodup_cons.mpr ⟨hpath, h.nodup⟩
  mem := by
    intro x hx
    rcases List.mem_cons.mp hx with rfl | hx
    · exact ha
    · exact h.mem x hx
  apart := by
    intro x hx
    rcases List.mem_cons.mp hx with rfl | hx
    · exact hdone
    · exact h.apart x hx
  settled := h.settled

/-- What a search from `starts` has done when it comes to an end: it has entered the nodes
`entered`, in this order. -/
structure Searched (next : α → List α) (enter : α → σ → σ) (path starts : List α)
    (before : List α × σ) (entered : List α) (after : List α × σ) : Prop where
  state : after.2 = entered.foldl (fun s a => enter a s) before.2
  mem_done : ∀ a, a ∈ after.1 ↔ a ∈ entered ∨ a ∈ before.1
  mem_starts : ∀ a ∈ starts, a ∈ after.1
  reached : ∀ b ∈ entered, ∃ a ∈ starts, ReflTransGen (Next next) a b
  settled : Settled next after.1
  apart : ∀ a ∈ path, a ∉ after.1

/-- What holds of a search for each of its outcomes. -/
def Outcome (next : α → List α) (enter : α → σ → σ) (path starts : List α) (before : List α × σ) :
    Except (List α) (List α × σ) → Prop
  | .error cycle => IsCycle next cycle
  | .ok after => ∃ entered, Searched next enter path starts before entered after

/-! ## One node and many -/

/-- If the search from each of some nodes has the outcome it should have, so has the search from all
of them in turn. -/
theorem outcome_foldlM {within path : List α}
    {visit : List α × σ → α → Except (List α) (List α × σ)}
    (hvisit : ∀ done s a, Stands next within path done → a ∈ within →
      (∀ b ∈ path.head?, Next next b a) →
      Outcome next enter path [a] (done, s) (visit (done, s) a))
    (starts done : List α) (s : σ) (h : Stands next within path done)
    (hwithin : ∀ a ∈ starts, a ∈ within) (hstep : ∀ a ∈ starts, ∀ b ∈ path.head?, Next next b a) :
    Outcome next enter path starts (done, s) (starts.foldlM visit (done, s)) := by
  induction starts generalizing done s with
  | nil => exact ⟨[], rfl, by simp, by simp, by simp, h.settled, h.apart⟩
  | cons a starts ih =>
    have ha := hvisit done s a h (hwithin a List.mem_cons_self) (hstep a List.mem_cons_self)
    rw [List.foldlM_cons]
    cases hres : visit (done, s) a with
    | error cycle =>
      rw [hres] at ha
      exact ha
    | ok mid =>
      rw [hres] at ha
      obtain ⟨first, hfirst⟩ := ha
      have hstands : Stands next within path mid.1 :=
        ⟨h.chain, h.nodup, h.mem, hfirst.apart, hfirst.settled⟩
      have hrest := ih mid.1 mid.2 hstands (fun x hx => hwithin x (List.mem_cons_of_mem _ hx))
        (fun x hx => hstep x (List.mem_cons_of_mem _ hx))
      show Outcome next enter path (a :: starts) (done, s) (starts.foldlM visit mid)
      cases hres' : starts.foldlM visit mid with
      | error cycle =>
        rw [hres'] at hrest
        exact hrest
      | ok after =>
        rw [hres'] at hrest
        obtain ⟨later, hlater⟩ := hrest
        refine ⟨first ++ later, ?_, ?_, ?_, ?_, hlater.settled, hlater.apart⟩
        · rw [hlater.state, hfirst.state, List.foldl_append]
        · intro x
          rw [hlater.mem_done, hfirst.mem_done, List.mem_append]
          tauto
        · intro x hx
          rcases List.mem_cons.mp hx with rfl | hx
          · exact (hlater.mem_done x).mpr (Or.inr (hfirst.mem_starts x (List.mem_singleton_self x)))
          · exact hlater.mem_starts x hx
        · intro x hx
          rcases List.mem_append.mp hx with hx | hx
          · obtain ⟨b, hb, hbx⟩ := hfirst.reached x hx
            exact ⟨b, List.mem_cons.mpr (Or.inl (List.mem_singleton.mp hb)), hbx⟩
          · obtain ⟨b, hb, hbx⟩ := hlater.reached x hx
            exact ⟨b, List.mem_cons_of_mem _ hb, hbx⟩

/-- A search in turn that stops does so at one of its nodes. -/
theorem exists_of_foldlM_error {visit : List α × σ → α → Except (List α) (List α × σ)}
    {cycle : List α} (starts : List α) (s : List α × σ)
    (h : starts.foldlM visit s = .error cycle) : ∃ a ∈ starts, ∃ s, visit s a = .error cycle := by
  induction starts generalizing s with
  | nil => cases h
  | cons a starts ih =>
    rw [List.foldlM_cons] at h
    cases hres : visit s a with
    | error cycle' =>
      rw [hres] at h
      cases h
      exact ⟨a, List.mem_cons_self, s, hres⟩
    | ok mid =>
      rw [hres] at h
      obtain ⟨b, hb, hstop⟩ := ih mid h
      exact ⟨b, List.mem_cons_of_mem a hb, hstop⟩

variable [DecidableEq α]

/-- Coming to a node of the path again closes a cycle. -/
theorem isCycle_cycleAt {path : List α} {a : α} (ha : a ∈ path) (hnodup : path.Nodup)
    (hchain : (a :: path).IsChain fun x y => Next next y x) : IsCycle next (cycleAt path a) := by
  obtain ⟨front, rest, rfl, hfront⟩ := List.eq_append_cons_of_mem ha
  have htake : (front ++ a :: rest).takeWhile (· ≠ a) = front := by
    have hne : ∀ x ∈ front, x ≠ a := fun x hx h => hfront (h ▸ hx)
    rw [List.takeWhile_append_of_pos (by simpa using hne)]
    simp
  rw [cycleAt, htake]
  refine ⟨⟨a, front.reverse, rfl⟩, ?_, ?_⟩
  · have hback : (a :: (front ++ [a])).IsChain fun x y => Next next y x :=
      hchain.prefix ⟨rest, by simp⟩
    have hforth := List.isChain_reverse.mpr hback
    simpa using hforth
  · rw [List.dropLast_concat, List.nodup_cons, List.mem_reverse, List.nodup_reverse]
    exact ⟨hfront, hnodup.sublist (List.sublist_append_left _ _)⟩

/-- The search from a node has the outcome it should have, if there is fuel for a path through all
nodes. -/
theorem outcome_visit {within : List α} (hclosed : ∀ a ∈ within, ∀ b ∈ next a, b ∈ within)
    (fuel : Nat) (path done : List α) (s : σ) (a : α) (h : Stands next within path done)
    (ha : a ∈ within) (hstep : ∀ b ∈ path.head?, Next next b a)
    (hfuel : within.length < fuel + path.length) :
    Outcome next enter path [a] (done, s) (visit next enter fuel path (done, s) a) := by
  induction fuel generalizing path done s a with
  | zero =>
    -- a path without repetition is no longer than the list of all nodes
    have := h.nodup.length_le_of_subset h.mem
    omega
  | succ fuel ih =>
    rw [visit]
    by_cases hpath : a ∈ path
    · rw [if_pos (List.contains_iff_mem.mpr hpath)]
      exact isCycle_cycleAt hpath h.nodup (h.chain.cons hstep)
    rw [if_neg (by simpa using hpath)]
    by_cases hdone : a ∈ done
    · rw [if_pos (List.contains_iff_mem.mpr hdone)]
      exact ⟨[], rfl, by simp, by simpa using hdone, by simp, h.settled, h.apart⟩
    rw [if_neg (by simpa using hdone)]
    have hnext := outcome_foldlM enter
      (fun done s b hs hb hstep => ih (a :: path) done s b hs hb hstep (by simp; omega))
      (next a) done (enter a s) (h.cons ha hstep hpath hdone) (hclosed a ha)
      (fun b hb p hp => by cases hp; exact hb)
    cases hres : (next a).foldlM (visit next enter fuel (a :: path)) (done, enter a s) with
    | error cycle =>
      rw [hres] at hnext
      exact hnext
    | ok after =>
      rw [hres] at hnext
      obtain ⟨entered, hentered⟩ := hnext
      have hfresh : a ∉ after.1 := hentered.apart a List.mem_cons_self
      refine ⟨a :: entered, hentered.state, ?_, ?_, ?_, ?_, ?_⟩
      · intro x
        show x ∈ a :: after.1 ↔ x ∈ a :: entered ∨ x ∈ done
        rw [List.mem_cons, hentered.mem_done, List.mem_cons, or_assoc]
      · intro x hx
        rw [List.mem_singleton.mp hx]
        exact List.mem_cons_self
      · intro x hx
        refine ⟨a, List.mem_singleton_self a, ?_⟩
        rcases List.mem_cons.mp hx with rfl | hx
        · exact ReflTransGen.refl
        · obtain ⟨b, hb, hbx⟩ := hentered.reached x hx
          exact ReflTransGen.head hb hbx
      · exact hentered.settled.cons hfresh hentered.mem_starts
      · intro x hx hxa
        rcases List.mem_cons.mp hxa with rfl | hxa
        · exact hpath hx
        · exact hentered.apart x (List.mem_cons_of_mem _ hx) hxa

/-! ## Searches from the beginning -/

/-- A search from one node that stops has found a cycle; one that does not has entered exactly the
nodes that can be reached. -/
theorem visit_spec {within : List α} (hclosed : ∀ a ∈ within, ∀ b ∈ next a, b ∈ within)
    {fuel : Nat} (hfuel : within.length < fuel) (s : σ) {a : α} (ha : a ∈ within) :
    (∃ cycle, visit next enter fuel [] ([], s) a = .error cycle ∧ IsCycle next cycle) ∨
      ∃ (done entered : List α), visit next enter fuel [] ([], s) a =
          .ok (done, entered.foldl (fun s x => enter x s) s) ∧
        ∀ x, x ∈ entered ↔ ReflTransGen (Next next) a x := by
  have hout := outcome_visit enter hclosed fuel [] [] s a Stands.start ha (by simp)
    (by simpa using hfuel)
  cases hres : visit next enter fuel [] ([], s) a with
  | error cycle =>
    rw [hres] at hout
    exact Or.inl ⟨cycle, rfl, hout⟩
  | ok after =>
    rw [hres] at hout
    obtain ⟨entered, hentered⟩ := hout
    refine Or.inr ⟨after.1, entered, by rw [← hentered.state],
      fun x => ⟨fun hx => ?_, fun hx => ?_⟩⟩
    · obtain ⟨b, hb, hbx⟩ := hentered.reached x hx
      rw [List.mem_singleton.mp hb] at hbx
      exact hbx
    · have hdone := hentered.settled.reach (hentered.mem_starts a (List.mem_singleton_self a)) hx
      simpa using (hentered.mem_done x).mp hdone

/-- A search that stops has come to the first node of the cycle it reports. -/
theorem head_of_visit_error {fuel : Nat} {path cycle : List α} {s : List α × σ} {a : α}
    (h : visit next enter fuel path s a = .error cycle) :
    ∃ x, cycle.head? = some x ∧ ReflTransGen (Next next) a x := by
  induction fuel generalizing path s a with
  | zero => cases h
  | succ fuel ih =>
    obtain ⟨done, s⟩ := s
    rw [visit] at h
    by_cases hpath : a ∈ path
    · rw [if_pos (List.contains_iff_mem.mpr hpath)] at h
      cases h
      exact ⟨a, rfl, ReflTransGen.refl⟩
    rw [if_neg (by simpa using hpath)] at h
    by_cases hdone : a ∈ done
    · rw [if_pos (List.contains_iff_mem.mpr hdone)] at h
      cases h
    rw [if_neg (by simpa using hdone)] at h
    cases hres : (next a).foldlM (visit next enter fuel (a :: path)) (done, enter a s) with
    | ok after =>
      rw [hres] at h
      cases h
    | error cycle' =>
      rw [hres] at h
      cases h
      obtain ⟨b, hb, s', hstop⟩ := exists_of_foldlM_error (next a) _ hres
      obtain ⟨x, hx, hbx⟩ := ih hstop
      exact ⟨x, hx, ReflTransGen.head hb hbx⟩

/-- A search from one node stops exactly if it leads to a node on a cycle. -/
theorem visit_error_iff {within : List α} (hclosed : ∀ a ∈ within, ∀ b ∈ next a, b ∈ within)
    {fuel : Nat} (hfuel : within.length < fuel) (s : σ) {a : α} (ha : a ∈ within) :
    (∃ cycle, visit next enter fuel [] ([], s) a = .error cycle) ↔
      ∃ x, ReflTransGen (Next next) a x ∧ TransGen (Next next) x x := by
  have hout := outcome_visit enter hclosed fuel [] [] s a Stands.start ha (by simp)
    (by simpa using hfuel)
  cases hres : visit next enter fuel [] ([], s) a with
  | error cycle =>
    rw [hres] at hout
    obtain ⟨x, hx, hax⟩ := head_of_visit_error enter hres
    exact ⟨fun _ => ⟨x, hax, IsCycle.transGen_head hout hx⟩, fun _ => ⟨cycle, rfl⟩⟩
  | ok after =>
    rw [hres] at hout
    obtain ⟨entered, hentered⟩ := hout
    constructor
    · rintro ⟨cycle, h⟩
      cases h
    · rintro ⟨x, hax, hcycle⟩
      -- whatever the search leads to is settled in the end, and so on no cycle
      have hstart : a ∈ after.1 := hentered.mem_starts a (List.mem_singleton_self a)
      exact absurd hcycle (hentered.settled.acyclic x (hentered.settled.reach hstart hax))

/-- A search from many nodes that stops has found a cycle; one that does not shows that none of them
is on a cycle. -/
theorem visitAll_spec {within : List α} (hclosed : ∀ a ∈ within, ∀ b ∈ next a, b ∈ within)
    {fuel : Nat} (hfuel : within.length < fuel) (s : σ) {starts : List α}
    (hstarts : ∀ a ∈ starts, a ∈ within) :
    (∃ cycle, visitAll next enter fuel s starts = .error cycle ∧ IsCycle next cycle) ∨
      ∃ after, visitAll next enter fuel s starts = .ok after ∧
        ∀ a ∈ starts, ¬ TransGen (Next next) a a := by
  have hout : Outcome next enter [] starts ([], s) (visitAll next enter fuel s starts) :=
    outcome_foldlM enter
      (fun done s a hs ha hstep =>
        outcome_visit enter hclosed fuel [] done s a hs ha hstep (by simpa using hfuel))
      starts [] s Stands.start hstarts (by simp)
  cases hres : visitAll next enter fuel s starts with
  | error cycle =>
    rw [hres] at hout
    exact Or.inl ⟨cycle, rfl, hout⟩
  | ok after =>
    rw [hres] at hout
    obtain ⟨entered, hentered⟩ := hout
    exact Or.inr ⟨after, rfl, fun a ha => hentered.settled.acyclic a (hentered.mem_starts a ha)⟩

end LocaleKeys.Search

import LocaleKeys.Scan
import LocaleKeys.Proofs.CallGraph
import LocaleKeys.Proofs.Node

/-!
# Proofs: how a scan can fail

A scan fails in two ways only: the source is malformed, or the methods of a controller call each
other in a cycle. The second is decided before any call site is looked at, and what is looked at
later cannot fail any more: the check goes along callees and the later searches along callers, but
both know the same cycles.
-/

namespace LocaleKeys

open Ast

namespace Resolve

variable {settings : Settings} {d : Document} {index : Index} {path : String}

/-- A controller whose methods call each other in a cycle. -/
def CyclicController (settings : Settings) (path : String) (c : Context) : Prop :=
  applies settings path c = true ∧ ¬ c.Acyclic

/-! ## The check before the call sites -/

theorem graph?_cycle?_eq_none_iff {c : Context} :
    (graph? settings path c).bind CallGraph.cycle? = none ↔ ¬ CyclicController settings path c := by
  rw [graph?, CyclicController]
  by_cases happlies : applies settings path c = true
  · rw [if_pos happlies, Option.bind_some, CallGraph.cycle?_eq_none_iff]
    tauto
  · rw [if_neg happlies, Option.bind_none]
    tauto

theorem graph?_cycle?_eq_some_iff {c : Context} {methods : List String} :
    (graph? settings path c).bind CallGraph.cycle? = some methods ↔
      CyclicController settings path c ∧ (CallGraph.ofContext c).cycle? = some methods := by
  constructor
  · intro h
    refine ⟨?_, ?_⟩
    · by_contra hnot
      rw [graph?_cycle?_eq_none_iff.mpr hnot] at h
      cases h
    · obtain ⟨g, hg, hcycle⟩ := Option.bind_eq_some_iff.mp h
      rw [graph?] at hg
      split at hg
      · cases hg
        exact hcycle
      · cases hg
  · rintro ⟨⟨happlies, -⟩, hcycle⟩
    rw [graph?, if_pos happlies, Option.bind_some, hcycle]

/-- The check lets an index pass exactly if no controller is cyclic. -/
theorem cycle?_eq_none_iff {contexts : List Context} :
    cycle? settings path contexts = none ↔
      ¬ ∃ c ∈ contexts, CyclicController settings path c := by
  rw [cycle?, List.findSome?_eq_none_iff]
  simp only [graph?_cycle?_eq_none_iff]
  push Not
  rfl

/-- The check reports the cycle of the first cyclic controller. -/
theorem cycle?_eq_some_iff {contexts : List Context} {methods : List String} :
    cycle? settings path contexts = some methods ↔
      ∃ before c after, contexts = before ++ c :: after ∧
        (∀ b ∈ before, ¬ CyclicController settings path b) ∧
        CyclicController settings path c ∧ (CallGraph.ofContext c).cycle? = some methods := by
  rw [cycle?, List.findSome?_eq_some_iff]
  simp only [graph?_cycle?_eq_none_iff, graph?_cycle?_eq_some_iff]
  constructor
  · rintro ⟨before, c, after, hcontexts, hc, hbefore⟩
    exact ⟨before, c, after, hcontexts, hbefore, hc⟩
  · rintro ⟨before, c, after, hcontexts, hbefore, hc⟩
    exact ⟨before, c, after, hcontexts, hc, hbefore⟩

/-! ## The call sites -/

/-- In a controller without cycles the search for actions ends. -/
theorem roots_ok {contexts : List Context} (h : cycle? settings path contexts = none) {c : Context}
    (hc : c ∈ contexts) (happlies : applies settings path c = true) (name : String) :
    ∃ found, (CallGraph.ofContext c).roots name = .ok found := by
  have hacyclic : c.Acyclic := by
    by_contra hnot
    exact cycle?_eq_none_iff.mp h ⟨c, hc, happlies, hnot⟩
  obtain ⟨found, hfound, -⟩ := CallGraph.roots_of_acyclic hacyclic ⟨name, .pub, 0, 0⟩
  exact ⟨found, hfound⟩

theorem relative_ok (h : cycle? settings d.path index.contexts = none) (p : Placed) (l : Lookup)
    (key : String) : ∃ verdict, relative settings d index p l key = .ok verdict := by
  rw [relative]
  cases hc : index.contexts[p.context]? with
  | none => exact ⟨_, rfl⟩
  | some c =>
    by_cases happlies : applies settings d.path c = true
    · have hreaching : ∃ found, reaching (CallGraph.ofContext c) p.caller = .ok found := by
        cases p.caller with
        | none => exact ⟨_, rfl⟩
        | some caller =>
          cases caller with
          | method m => exact roots_ok h (List.mem_of_getElem? hc) happlies m.name
          | callback number => exact ⟨_, rfl⟩
      obtain ⟨found, hfound⟩ := hreaching
      simp only [graph?, if_pos happlies, hfound]
      cases found <;> exact ⟨_, rfl⟩
    · simp only [graph?, if_neg happlies]
      exact ⟨_, rfl⟩

/-- Once the check has passed, every call site can be resolved. -/
theorem site_ok (h : settings.mode = .conventions → cycle? settings d.path index.contexts = none)
    (p : Placed) : ∃ verdict, site settings d index p = .ok verdict := by
  rw [site]
  cases p.site with
  | helper helper => cases settings.mode <;> exact ⟨_, rfl⟩
  | lookup l =>
    dsimp only
    cases hreading : l.reading settings with
    | unusable reason => exact ⟨_, rfl⟩
    | complete key => exact ⟨_, rfl⟩
    | relative key =>
      cases hmode : settings.mode with
      | plain => exact ⟨_, rfl⟩
      | conventions => exact relative_ok (h hmode) p l key

theorem sites_ok (h : ∀ p, ∃ verdict, site settings d index p = .ok verdict) (ps : List Placed) :
    (sites settings d index ps).2 = none := by
  induction ps with
  | nil => rfl
  | cons p ps ih =>
    obtain ⟨verdict, hverdict⟩ := h p
    simp only [sites, hverdict]
    exact ih

/-- What stops the resolution of an index: the check before the call sites, and nothing else. -/
theorem all_cycle (settings : Settings) (d : Document) (index : Index) :
    (all settings d index).2 =
      match settings.mode with
      | .plain => none
      | .conventions => cycle? settings d.path index.contexts := by
  rw [all]
  cases hmode : settings.mode with
  | plain => exact sites_ok (site_ok (by simp [hmode])) index.sites
  | conventions =>
    cases hcycle : cycle? settings d.path index.contexts with
    | some cycle => rfl
    | none => exact sites_ok (site_ok fun _ => hcycle) index.sites

end Resolve

namespace Scan

open Resolve

/-! ## The scan -/

variable (parse : Parser) (settings : Settings) (path text : String) {root : Node}

theorem document_outcome (d : Document) (root : Node) :
    (document parse settings d root).outcome =
      match (all settings d (Index.ofTree settings root)).2 with
      | some methods => .error (.cyclic (some d.path) methods)
      | none => .ok (Hint.occurrences parse settings d ++
          (all settings d (Index.ofTree settings root)).1.flatMap Verdict.occurrences) := by
  rcases hall : all settings d (Index.ofTree settings root) with ⟨verdicts, _ | methods⟩
  · simp only [document, hall]
  · simp only [document, hall]

theorem outcome_of_malformed (hroot : root.tag.hasError = true) :
    ∃ line reason, (withTree parse settings path text root).outcome =
      .error (.malformed (some path) line reason) := by
  rw [withTree, Node.fault?, if_pos hroot]
  exact ⟨_, _, rfl⟩

/-- The scan of a tree without defects fails exactly with the cycle that the check reports. -/
theorem outcome_of_wellFormed (hroot : root.tag.hasError = false) :
    (∃ methods, settings.mode = .conventions ∧
        cycle? settings path (Index.ofTree settings root).contexts = some methods ∧
        (withTree parse settings path text root).outcome =
          .error (.cyclic (some path) methods)) ∨
      ((settings.mode = .conventions →
          cycle? settings path (Index.ofTree settings root).contexts = none) ∧
        ∃ occurrences, (withTree parse settings path text root).outcome = .ok occurrences) := by
  have hdocument : (withTree parse settings path text root).outcome =
      (document parse settings (.ofText path text) root).outcome := by
    rw [withTree, Node.fault?, hroot]
    rfl
  rw [hdocument, document_outcome, all_cycle]
  cases hmode : settings.mode with
  | plain => exact Or.inr ⟨fun h => (by cases h), _, rfl⟩
  | conventions =>
    show _ ∨ _
    dsimp only [Document.ofText]
    cases hcycle : cycle? settings path (Index.ofTree settings root).contexts with
    | some methods => exact Or.inl ⟨methods, rfl, rfl, rfl⟩
    | none => exact Or.inr ⟨fun _ => rfl, _, rfl⟩

/-- The scan fails with a malformed source exactly if the root is marked. -/
theorem outcome_malformed_iff :
    (∃ line reason, (withTree parse settings path text root).outcome =
      .error (.malformed (some path) line reason)) ↔ root.tag.hasError = true := by
  refine ⟨fun ⟨line, reason, h⟩ => ?_, outcome_of_malformed parse settings path text⟩
  by_contra hroot
  rcases outcome_of_wellFormed parse settings path text (by simpa using hroot) with
    ⟨methods, -, -, h'⟩ | ⟨-, occurrences, h'⟩
  · exact absurd (h.symm.trans h') (by simp)
  · exact absurd (h.symm.trans h') (by simp)

/-- The scan fails with a cycle exactly if conventions apply, the root is not marked, and the check
reports this cycle. -/
theorem outcome_cyclic_iff {methods : List String} :
    (withTree parse settings path text root).outcome = .error (.cyclic (some path) methods) ↔
      root.tag.hasError = false ∧ settings.mode = .conventions ∧
        cycle? settings path (Index.ofTree settings root).contexts = some methods := by
  cases hroot : root.tag.hasError with
  | true =>
    obtain ⟨line, reason, h⟩ := outcome_of_malformed parse settings path text hroot
    simp [h]
  | false =>
    rcases outcome_of_wellFormed parse settings path text hroot with
      ⟨methods', hmode, hcycle, h⟩ | ⟨hcycle, occurrences, h⟩
    · simp [h, hmode, hcycle]
    · refine ⟨fun h' => absurd (h.symm.trans h') (by simp), fun ⟨_, hmode, hsome⟩ => ?_⟩
      exact absurd ((hcycle hmode).symm.trans hsome) (by simp)

/-- There is a cyclic controller exactly if the check reports a cycle. -/
theorem exists_cycle?_iff {contexts : List Context} :
    (∃ methods, cycle? settings path contexts = some methods) ↔
      ∃ c ∈ contexts, CyclicController settings path c := by
  rw [← not_iff_not, ← cycle?_eq_none_iff, Option.eq_none_iff_forall_ne_some]
  push Not
  rfl

/-- How a scan ends, for every tree in which each constant inside another one has a name. -/
theorem outcome_exact (parse : Parser) (settings : Settings) (path text : String) (root : Node)
    (hnamed : ∀ n, root.Holds n → n.kind = .scopeResolution → (n.child? .name).isSome = true) :
    -- it fails with a malformed source exactly if the root is marked
    ((∃ line reason, (withTree parse settings path text root).outcome =
        .error (.malformed (some path) line reason)) ↔ root.tag.hasError = true) ∧
    (root.tag.hasError = false →
      -- otherwise it fails with a cycle exactly if conventions apply and a controller is cyclic,
      ((∃ methods, (withTree parse settings path text root).outcome =
          .error (.cyclic (some path) methods)) ↔
        settings.mode = .conventions ∧
          ∃ c ∈ (Index.ofTree settings root).contexts, CyclicController settings path c) ∧
      -- namely with what the check finds in the first such controller,
      (∀ methods, (withTree parse settings path text root).outcome =
          .error (.cyclic (some path) methods) →
        ∃ before c after, (Index.ofTree settings root).contexts = before ++ c :: after ∧
          (∀ b ∈ before, ¬ CyclicController settings path b) ∧
          CyclicController settings path c ∧ (CallGraph.ofContext c).cycle? = some methods) ∧
      -- and in every other case it gives the uses of keys
      (¬ (settings.mode = .conventions ∧
          ∃ c ∈ (Index.ofTree settings root).contexts, CyclicController settings path c) →
        ∃ occurrences, (withTree parse settings path text root).outcome = .ok occurrences)) ∧
    -- once the check has passed, no search for actions fails, and no call site
    (cycle? settings path (Index.ofTree settings root).contexts = none →
      (∀ c ∈ (Index.ofTree settings root).contexts, applies settings path c = true →
        ∀ name, ∃ found, (CallGraph.ofContext c).roots name = .ok found) ∧
      ∀ p, ∃ verdict,
        site settings (.ofText path text) (Index.ofTree settings root) p = .ok verdict) ∧
    -- plain mode knows no cycles
    (settings.mode = .plain → ∀ methods, (withTree parse settings path text root).outcome ≠
      .error (.cyclic (some path) methods)) ∧
    -- and every constant has a last name
    ∀ n, root.Holds n → n.constantPath ≠ [] := by
  refine ⟨outcome_malformed_iff parse settings path text,
    fun hroot => ⟨?_, fun methods h => ?_, fun hnot => ?_⟩,
    fun hcycle => ⟨fun c hc happlies => roots_ok hcycle hc happlies, site_ok fun _ => hcycle⟩,
    fun hmode methods h => ?_, fun n hn => ?_⟩
  · simp only [outcome_cyclic_iff, hroot, true_and, exists_and_left, exists_cycle?_iff]
  · exact cycle?_eq_some_iff.mp ((outcome_cyclic_iff parse settings path text).mp h).2.2
  · rcases outcome_of_wellFormed parse settings path text hroot with
      ⟨methods, hmode, hcycle, -⟩ | ⟨-, hok⟩
    · exact absurd ⟨hmode, (exists_cycle?_iff settings path).mp ⟨methods, hcycle⟩⟩ hnot
    · exact hok
  · have hconventions := ((outcome_cyclic_iff parse settings path text).mp h).2.1
    rw [hmode] at hconventions
    cases hconventions
  · exact Node.constantPath_ne_nil n fun m hm => hnamed m (hn.trans hm)

/-- A controller inside a module, with an action that calls itself. -/
def recursiveController : Node :=
  ⟨{ kind := .other "program" },
    [⟨{ kind := .classDef },
      [⟨{ kind := .scopeResolution, roles := [.name] },
        [⟨{ kind := .constant, roles := [.scope], text := "Admin" }, []⟩,
          ⟨{ kind := .constant, roles := [.name], text := "EventsController" }, []⟩]⟩,
      ⟨{ kind := .bodyStatement, roles := [.body] },
        [⟨{ kind := .method },
          [⟨{ kind := .identifier, roles := [.name], text := "index" }, []⟩,
          ⟨{ kind := .bodyStatement, roles := [.body] },
            [⟨{ kind := .identifier, text := "index" }, []⟩]⟩]⟩]⟩]⟩]⟩

theorem outcome_exact_recursive :
    ∃ methods, (withTree (Parses.parser []) {} "events.rb" "" recursiveController).outcome =
      .error (.cyclic (some "events.rb") methods) := by
  have hnamed : ∀ n, recursiveController.Holds n → n.kind = .scopeResolution →
      (n.child? .name).isSome = true := by
    intro n hn hkind
    have htest : recursiveController.everywhere
        (fun n => n.kind ≠ .scopeResolution || (n.child? .name).isSome) = true := by decide +kernel
    simpa [hkind] using Node.everywhere_iff.mp htest n hn
  have hcycle : cycle? {} "events.rb" (Index.ofTree {} recursiveController).contexts =
      some ["index", "index"] := by decide +kernel
  have hcyclic := (exists_cycle?_iff {} "events.rb").mp ⟨_, hcycle⟩
  have hspec := outcome_exact (Parses.parser []) {} "events.rb" "" recursiveController hnamed
  exact (hspec.2.1 rfl).1.mpr ⟨rfl, hcyclic⟩

end Scan

end LocaleKeys

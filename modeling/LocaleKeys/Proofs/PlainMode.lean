import LocaleKeys.Proofs.Hints
import LocaleKeys.Proofs.Verdicts
import LocaleKeys.Proofs.Walk

/-!
# Proofs: plain mode and conventions

Plain mode gives what the conventions give, less what only they can tell: the keys of record helpers
and the relative keys of lookups without a receiver. Every other use stays as it is and where it is.
-/

namespace LocaleKeys

open Ast

/-- Does a site have a key by convention only? A record helper has, and so has a lookup without a
receiver whose key begins with a dot. -/
def Site.byConvention : Site → Bool
  | .helper _ => true
  | .lookup l => l.form = .short && l.key.any (Key.isRelative ·.text)

/-! ## What the mode does not change -/

section Mode

variable (settings : Settings) (mode : Mode)

theorem Index.ofTree_mode (root : Node) :
    Index.ofTree { settings with mode } root = Index.ofTree settings root :=
  Outline.ofTree_congr (by rfl) (by rfl) (by rfl) root

theorem Hint.occurrences_mode (parse : Parser) (d : Document) :
    Hint.occurrences parse { settings with mode } d = Hint.occurrences parse settings d := by
  have hcall : Lookup.ofCall? { settings with mode } = Lookup.ofCall? settings := rfl
  have hhint : Hint.ofLookup? { settings with mode } = Hint.ofLookup? settings := rfl
  have hline : ∀ number line, Hint.ofLine parse { settings with mode } d.path number line =
      Hint.ofLine parse settings d.path number line := by
    intro number line
    simp only [ofLine, ofExpression, lookups_eq, hcall, hhint]
  simp only [occurrences, hline]

theorem Lookup.reading_mode (l : Lookup) :
    l.reading { settings with mode } = l.reading settings := rfl

end Mode

/-! ## Sites in both modes -/

namespace Resolve

variable (settings : Settings) (d : Document) (index : Index)

/-- In plain mode a site by convention gives nothing, and any other site what it gives by the
conventions. -/
theorem occurrences_plain (p : Placed) :
    (verdictAt { settings with mode := .plain } d index p).occurrences =
      if p.site.byConvention then []
      else (verdictAt { settings with mode := .conventions } d index p).occurrences := by
  obtain ⟨here, caller, s⟩ := p
  cases s with
  | helper h => rfl
  | lookup l =>
    have hreads := l.reads settings
    simp only [verdictAt, site, Lookup.reading_mode]
    generalize l.reading settings = reading at hreads ⊢
    cases hreads with
    | unusable reason => simp [Lookup.drop, Verdict.occurrences]
    | complete hkey htext hk hfull hne =>
      have hconvention : (Site.lookup l).byConvention = false := by
        rcases hk with hk | hk <;> simp [Site.byConvention, hkey, hk]
      rw [hconvention]
      rfl
    | relative hkey htext hform hrelative =>
      have hconvention : (Site.lookup l).byConvention = true := by
        simp [Site.byConvention, hkey, hform, hrelative]
      rw [hconvention]
      rfl

end Resolve

/-! ## Scans in both modes -/

namespace Scan

variable (parse : Parser) (settings : Settings) (d : Document) (root : Node)

/-- The uses of keys in a file, each with the call site that gives it, or with none if a comment
declares it. -/
def traced : List (Option Site × Occurrence) :=
  (Hint.occurrences parse settings d).map (none, ·) ++
    (Index.ofTree settings root).sites.flatMap fun p =>
      (Resolve.verdictAt settings d (Index.ofTree settings root) p).occurrences.map (some p.site, ·)

/-- Is a use one that only the conventions give? -/
def isConventional (u : Option Site × Occurrence) : Bool := u.1.any Site.byConvention

theorem map_snd_traced :
    (traced parse settings d root).map (·.2) =
      Hint.occurrences parse settings d ++
        (Resolve.verdicts settings d (Index.ofTree settings root)).flatMap
          Verdict.occurrences := by
  simp [traced, Resolve.verdicts, List.map_flatMap, List.flatMap_map, Function.comp_def]

/-- A file that is not stopped gives the uses that are traced in it. -/
theorem document_outcome_of_not_stopped
    (h : Resolve.stopped? settings d (Index.ofTree settings root) = none) :
    (document parse settings d root).outcome =
      .ok ((traced parse settings d root).map (·.2)) := by
  rw [document_outcome_eq, Resolve.outcome_eq, h, map_snd_traced]
  rfl

theorem not_stopped_of_ok {occurrences : List Occurrence}
    (h : (document parse settings d root).outcome = .ok occurrences) :
    Resolve.stopped? settings d (Index.ofTree settings root) = none := by
  rw [document_outcome_eq, Resolve.outcome_eq] at h
  cases hstopped : Resolve.stopped? settings d (Index.ofTree settings root) with
  | none => rfl
  | some methods =>
    rw [hstopped] at h
    cases h

/-- The uses in plain mode are those by the conventions, less those that only the conventions
give. -/
theorem traced_plain :
    traced parse { settings with mode := .plain } d root =
      (traced parse { settings with mode := .conventions } d root).filter (!isConventional ·) := by
  have hhints : ((Hint.occurrences parse settings d).map fun o => ((none : Option Site), o)).filter
      (!isConventional ·) = (Hint.occurrences parse settings d).map (none, ·) := by
    rw [List.filter_map]
    exact congrArg _ (List.filter_eq_self.mpr fun _ _ => rfl)
  have hsite : ∀ (s : Site) (os : List Occurrence),
      (os.map fun o => (some s, o)).filter (!isConventional ·) =
        (if s.byConvention then [] else os).map (some s, ·) := by
    intro s os
    rw [List.filter_map]
    cases hs : s.byConvention <;> simp [isConventional, Function.comp_def, hs]
  simp only [traced, Index.ofTree_mode, Hint.occurrences_mode, List.filter_append, hhints,
    List.filter_flatMap, hsite, Resolve.occurrences_plain]

/-- If the scan by the conventions succeeds, then plain mode gives the same uses in the same order,
less those of record helpers and of lookups without a receiver whose keys begin with a dot. -/
theorem plain_outcome (parse : Parser) (settings : Settings) (path text : String) (root : Node)
    {occurrences : List Occurrence}
    (h : (withTree parse { settings with mode := .conventions } path text root).outcome =
      .ok occurrences) :
    let uses := traced parse { settings with mode := .conventions } (.ofText path text) root
    let kept := uses.filter (!isConventional ·)
    occurrences = uses.map (·.2) ∧
      (withTree parse { settings with mode := .plain } path text root).outcome =
        .ok (kept.map (·.2)) ∧
      (kept.map (·.2)).Sublist occurrences := by
  intro uses kept
  have hroot := hasError_of_ok h
  rw [withTree_eq_document hroot] at h
  have huses : occurrences = uses.map (·.2) := by
    have hok := document_outcome_of_not_stopped parse _ _ root (not_stopped_of_ok parse _ _ root h)
    exact Except.ok.inj (h.symm.trans hok)
  refine ⟨huses, ?_, ?_⟩
  · rw [withTree_eq_document hroot, document_outcome_of_not_stopped parse _ _ root rfl,
      traced_plain]
  · rw [huses]
    exact List.filter_sublist.map _

/-- A string literal. -/
def quoted (text : String) : Node :=
  ⟨{ kind := .string }, [⟨{ kind := .other "string_content", text }, []⟩]⟩

/-- A call without a receiver. -/
def callOf (method : String) (line : Nat) (arguments : List Node) : Node :=
  ⟨{ kind := .call, line },
    [⟨{ kind := .identifier, roles := [.method], text := method }, []⟩,
      ⟨{ kind := .other "argument_list", roles := [.arguments] }, arguments⟩]⟩

/-- The tree of a lookup of a quoted key, such as `t('home')`, where it stands in a source: at an
offset, with a key of so many bytes. -/
def lookupAt (source : Source) (start width : Nat) : Node :=
  let node := Node.ofSpan source
  let stop := start + width
  node .call [] start (stop + 5)
    [node .identifier [.method] start (start + 1) [],
      node (.other "argument_list") [.arguments] (start + 1) (stop + 5)
        [node .string [] (start + 2) (stop + 4)
          [node (.other "string_content") [] (start + 3) (stop + 3) []]]]

/-- The tree of a text that is nothing but such a lookup. -/
def lookupAlone (text : String) : Node :=
  let source := Text.encoded text
  Node.ofSpan source (.other "program") [] 0 source.length [lookupAt source 0 (source.length - 5)]

/-- An option of a call. -/
def optionOf (name : String) (value : Node) : Node :=
  ⟨{ kind := .pair },
    [⟨{ kind := .hashKeySymbol, roles := [.key], text := name }, []⟩, value.withRole .value]⟩

/-- An action of a controller. -/
def actionOf (name : String) (body : List Node) : Node :=
  ⟨{ kind := .method },
    [⟨{ kind := .identifier, roles := [.name], text := name }, []⟩,
      ⟨{ kind := .bodyStatement, roles := [.body] }, body⟩]⟩

/-- A controller with its members. -/
def controllerOf (members : List Node) : Node :=
  ⟨{ kind := .other "program" },
    [⟨{ kind := .classDef },
      [⟨{ kind := .constant, roles := [.name], text := "EventsController" }, []⟩,
        ⟨{ kind := .bodyStatement, roles := [.body] }, members⟩]⟩]⟩

/-- An action that looks up a relative key, a key in a scope and the name of a record. -/
def eventsController : Node :=
  controllerOf [actionOf "index"
    [callOf "t" 4 [quoted ".title"],
      callOf "t" 5 [quoted "home", optionOf "scope" (quoted "menu")],
      ⟨{ kind := .call, line := 6 },
        [⟨{ kind := .call, roles := [.receiver], line := 6 },
          [⟨{ kind := .constant, roles := [.receiver], text := "Event" }, []⟩,
            ⟨{ kind := .identifier, roles := [.method], text := "model_name" }, []⟩]⟩,
          ⟨{ kind := .identifier, roles := [.method], text := "human" }, []⟩]⟩]]

/-- The first lines of its file, with a comment that declares a use. -/
def eventsText : String := "#use t('saved')\nclass"

/-- The parser that knows the expression in that comment. -/
def eventsParser : Parser :=
  Parses.parser [(Text.encoded "t('saved')", ⟨{ kind := .other "program" },
    [callOf "t" 1 [quoted "saved"]]⟩)]

/-- A scan of that controller. -/
def eventsScan (mode : Mode) : Report :=
  withTree eventsParser { mode, marker := "use" } "events.rb" eventsText eventsController

theorem plain_outcome_events :
    (eventsScan .conventions).outcome.map (List.map (·.key)) =
        .ok ["saved", "events.index.title", "menu.home", "activerecord.models.event.one"] ∧
      (eventsScan .plain).outcome.map (List.map (·.key)) = .ok ["saved", "menu.home"] ∧
      ∃ occurrences kept, (eventsScan .conventions).outcome = .ok occurrences ∧
        (eventsScan .plain).outcome = .ok kept ∧ kept.Sublist occurrences := by
  have hkeys : (eventsScan .conventions).outcome.map (List.map (·.key)) =
      .ok ["saved", "events.index.title", "menu.home", "activerecord.models.event.one"] := by
    decide +kernel
  refine ⟨hkeys, by decide +kernel, ?_⟩
  cases hok : (eventsScan .conventions).outcome with
  | error fault =>
    rw [hok] at hkeys
    cases hkeys
  | ok occurrences =>
    obtain ⟨-, hplain, hsublist⟩ := plain_outcome eventsParser { marker := "use" } _ _ _ hok
    exact ⟨occurrences, _, rfl, hplain, hsublist⟩

end Scan

end LocaleKeys

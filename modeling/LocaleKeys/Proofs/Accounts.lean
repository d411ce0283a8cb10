import LocaleKeys.Proofs.Hints
import LocaleKeys.Proofs.PlainMode

/-!
# Proofs: nothing vanishes silently

Whatever a scan does not turn into a use of a key, it says so. Each call site and each comment that
declares uses is accounted for: by the uses it gives or by one event, and never by neither or both.
-/

namespace LocaleKeys

open Ast

/-! ## Call sites -/

/-- The verdict on a call site accounts for it. -/
inductive Site.Accounted (mode : Mode) (path : String) : Site → Verdict → Prop where
  /-- A lookup gives uses of keys, all at its own place. -/
  | lookupFound {l : Lookup} {os : List Occurrence} (hne : os ≠ [])
      (hplace : ∀ o ∈ os, o.path = path ∧ o.line = l.line ∧ o.column = l.column) :
      Accounted mode path (.lookup l) (.found os)
  /-- A lookup is dropped, and its line is told. -/
  | lookupDropped {l : Lookup} (reason : DropReason) :
      Accounted mode path (.lookup l) (.dropped (.lookupDropped path l.line reason))
  /-- Under the conventions a record helper gives one use of a key. -/
  | helperFound {h : Helper} {o : Occurrence} (hmode : mode = .conventions)
      (hplace : o.path = path ∧ o.line = h.line ∧ o.column = h.column) :
      Accounted mode path (.helper h) (.found [o])
  /-- Under the conventions a record helper is dropped, and its line is told. -/
  | helperDropped {h : Helper} (hmode : mode = .conventions) :
      Accounted mode path (.helper h) (.dropped (.helperDropped path h.line))
  /-- Without them a record helper is passed over. -/
  | helperIgnored {h : Helper} (hmode : mode = .plain) : Accounted mode path (.helper h) .ignored

theorem Helper.accounted (h : Helper) (d : Document) :
    Site.Accounted .conventions d.path (.helper h) (h.verdict d) := by
  rw [verdict]
  cases h.kind with
  | modelName => exact .helperFound rfl ⟨rfl, rfl, rfl⟩
  | attributeName =>
    dsimp only
    split
    · split
      · exact .helperDropped rfl
      · exact .helperFound rfl ⟨rfl, rfl, rfl⟩
    · exact .helperDropped rfl

namespace Resolve

variable {settings : Settings} {d : Document} {index : Index}

/-- Where no action reaches a lookup, it is dropped and not turned into no uses at all. -/
theorem relative_accounted {p : Placed} {l : Lookup} {key : String} {verdict : Verdict}
    (h : relative settings d index p l key = .ok verdict) :
    Site.Accounted settings.mode d.path (.lookup l) verdict := by
  rw [relative] at h
  cases hc : index.contexts[p.context]? with
  | none =>
    rw [hc] at h
    cases h
    exact .lookupDropped _
  | some c =>
    cases hg : graph? settings d.path c with
    | none =>
      simp only [hc, hg] at h
      cases h
      exact .lookupDropped _
    | some g =>
      simp only [hc, hg] at h
      rcases hreaching : reaching g p.caller with cycle | _ | ⟨action, actions⟩
      · simp only [hreaching] at h
        cases h
      · simp only [hreaching] at h
        cases h
        exact .lookupDropped _
      · simp only [hreaching] at h
        cases h
        refine .lookupFound (List.cons_ne_nil _ _) ?_
        intro o ho
        obtain ⟨action, -, rfl⟩ := List.mem_map.mp ho
        exact ⟨rfl, rfl, rfl⟩

theorem site_accounted {p : Placed} {verdict : Verdict}
    (h : site settings d index p = .ok verdict) :
    p.site.Accounted settings.mode d.path verdict := by
  rw [site] at h
  cases hsite : p.site with
  | helper helper =>
    rw [hsite] at h
    cases hmode : settings.mode with
    | plain =>
      rw [hmode] at h
      cases h
      exact .helperIgnored rfl
    | conventions =>
      rw [hmode] at h
      cases h
      exact helper.accounted d
  | lookup l =>
    rw [hsite] at h
    dsimp only at h
    cases hreading : l.reading settings with
    | unusable reason =>
      rw [hreading] at h
      cases h
      exact .lookupDropped reason
    | complete key =>
      rw [hreading] at h
      cases h
      exact .lookupFound (List.cons_ne_nil _ _) (by simp [Lookup.occurrence])
    | relative key =>
      rw [hreading] at h
      dsimp only at h
      split at h
      · cases h
        exact .lookupDropped _
      · exact relative_accounted h

/-- Where the check for cycles has passed, every call site has its verdict. -/
theorem site_eq_verdictAt (h : stopped? settings d index = none) (p : Placed) :
    site settings d index p = .ok (verdictAt settings d index p) := by
  have hcycle : settings.mode = .conventions → cycle? settings d.path index.contexts = none := by
    intro hmode
    rwa [stopped?, hmode] at h
  obtain ⟨verdict, hverdict⟩ := site_ok hcycle p
  rw [verdictAt, hverdict]

end Resolve

/-! ## Comments -/

namespace Hint.Declaration

/-- The verdicts on a comment account for it. -/
inductive Accounted (parse : Parser) (settings : Settings) (d : Document) (a : Declaration) :
    List Verdict → Prop where
  /-- It cannot be read, and its line is told. -/
  | unreadable (herror : (a.root parse).tag.hasError = true) :
      Accounted parse settings d a [.dropped (.hintUnreadable d.path a.line.number)]
  /-- It can be read, and each lookup in it gives one use of a key or is dropped, in which case the
  line of the comment is told. -/
  | readable {vs : List Verdict} (herror : (a.root parse).tag.hasError = false)
      (hverdicts : List.Forall₂
        (fun _ v => (∃ o, v = .found [o] ∧ o.path = d.path ∧
            o.line = (target (numberedLines d) a.line).number) ∨
          v = .dropped (.hintDropped d.path a.line.number))
        (lookups settings (a.root parse)) vs) :
      Accounted parse settings d a vs

theorem accounted (parse : Parser) (settings : Settings) (d : Document) (a : Declaration) :
    a.Accounted parse settings d (a.verdicts parse settings d) := by
  rw [verdicts]
  by_cases herror : (a.root parse).tag.hasError = true
  · rw [if_pos herror]
    exact .unreadable herror
  · rw [if_neg herror]
    refine .readable (Bool.eq_false_iff.mpr herror) ?_
    rw [List.forall₂_map_right_iff, List.forall₂_same]
    intro l _
    rw [verdictOn]
    cases ofLookup? settings l with
    | none => exact .inr rfl
    | some h => exact .inl ⟨_, rfl, rfl, rfl⟩

end Hint.Declaration

/-! ## The log of a scan -/

namespace Scan

variable {parse : Parser} {settings : Settings} {d : Document} {root : Node}

/-- The report of a scan that is not stopped, by the verdicts on its call sites and comments. -/
theorem document_of_not_stopped
    (h : Resolve.stopped? settings d (Index.ofTree settings root) = none) :
    document parse settings d root =
      let index := Index.ofTree settings root
      let found := (Hint.verdicts parse settings d).flatMap Verdict.occurrences ++
        (Resolve.verdicts settings d index).flatMap Verdict.occurrences
      ⟨.started d.path settings.mode ::
          (Resolve.verdicts settings d index).flatMap Verdict.events ++
          (Hint.verdicts parse settings d).flatMap Verdict.events ++
          [.finished d.path found.length index.sites.length index.contexts.length],
        .ok found⟩ := by
  rw [document, Resolve.all_eq, h, Hint.occurrences_eq, Hint.events_eq]

/-- **Nothing vanishes silently.** A scan that succeeds accounts for every call site and every
comment, says in order what it drops, and counts in the end what it gives. -/
theorem no_site_vanishes (parse : Parser) (settings : Settings) (path text : String) (root : Node)
    {occurrences : List Occurrence}
    (h : (withTree parse settings path text root).outcome = .ok occurrences) :
    let d := Document.ofText path text
    let index := Index.ofTree settings root
    let onSite := Resolve.verdictAt settings d index
    let onComment := Hint.Declaration.verdicts parse settings d
    (∀ p ∈ index.sites, Resolve.site settings d index p = .ok (onSite p) ∧
      p.site.Accounted settings.mode path (onSite p)) ∧
    (∀ a ∈ Hint.declarations settings d, a.Accounted parse settings d (onComment a)) ∧
    occurrences =
      ((Hint.declarations settings d).flatMap onComment).flatMap Verdict.occurrences ++
        (index.sites.map onSite).flatMap Verdict.occurrences ∧
    (withTree parse settings path text root).events =
      .started path settings.mode ::
        (index.sites.map onSite).flatMap Verdict.events ++
        ((Hint.declarations settings d).flatMap onComment).flatMap Verdict.events ++
        [.finished path occurrences.length index.sites.length index.contexts.length] := by
  have hroot := hasError_of_ok h
  rw [withTree_eq_document hroot] at h ⊢
  have hstopped := not_stopped_of_ok parse _ _ root h
  rw [document_of_not_stopped hstopped] at h ⊢
  obtain rfl := Except.ok.inj h
  refine ⟨fun p _ => ?_, fun a _ => a.accounted parse settings _, rfl, rfl⟩
  have hsite := Resolve.site_eq_verdictAt hstopped p
  exact ⟨hsite, Resolve.site_accounted hsite⟩

/-- An action with a lookup that gives a key, one that has none, and the name of an attribute that
is not known. -/
def droppingController : Node :=
  controllerOf [actionOf "index"
    [callOf "t" 5 [quoted ".title"], callOf "t" 6 [],
      ⟨{ kind := .call, line := 7 },
        [⟨{ kind := .constant, roles := [.receiver], text := "Event" }, []⟩,
          ⟨{ kind := .identifier, roles := [.method], text := "human_attribute_name" }, []⟩,
          ⟨{ kind := .other "argument_list", roles := [.arguments] },
            [⟨{ kind := .identifier, text := "name" }, []⟩]⟩]⟩]]

/-- A comment that cannot be read, one with a relative key and one with a complete key. -/
def droppingText : String := "#use t(\n#use t('.x')\n#use t('saved')\nclass"

/-- The parser that knows the expressions in those comments. -/
def droppingParser : Parser :=
  Parses.parser [(Text.encoded "t(", ⟨{ kind := .other "program", hasError := true }, []⟩),
    (Text.encoded "t('.x')", ⟨{ kind := .other "program" }, [callOf "t" 1 [quoted ".x"]]⟩),
    (Text.encoded "t('saved')", ⟨{ kind := .other "program" }, [callOf "t" 1 [quoted "saved"]]⟩)]

/-- A scan of that controller. -/
def droppingScan : Report :=
  withTree droppingParser { marker := "use" } "events.rb" droppingText droppingController

theorem no_site_vanishes_dropping :
    droppingScan.outcome.map (List.map (·.key)) = .ok ["saved", "events.index.title"] ∧
      droppingScan.events =
        [.started "events.rb" .conventions, .lookupDropped "events.rb" 6 .nonLiteralKey,
          .helperDropped "events.rb" 7, .hintUnreadable "events.rb" 1, .hintDropped "events.rb" 2,
          .finished "events.rb" 2 3 2] ∧
      ∀ p ∈ (Index.ofTree { marker := "use" } droppingController).sites,
        p.site.Accounted .conventions "events.rb" (Resolve.verdictAt { marker := "use" }
          (.ofText "events.rb" droppingText) (Index.ofTree { marker := "use" } droppingController)
          p) := by
  have hkeys : droppingScan.outcome.map (List.map (·.key)) =
      .ok ["saved", "events.index.title"] := by
    decide +kernel
  refine ⟨hkeys, by decide +kernel, ?_⟩
  cases hok : droppingScan.outcome with
  | error fault =>
    rw [hok] at hkeys
    cases hkeys
  | ok occurrences =>
    obtain ⟨hsites, -⟩ := no_site_vanishes droppingParser { marker := "use" } _ _ _ hok
    exact fun p hp => (hsites p hp).2

end Scan

end LocaleKeys

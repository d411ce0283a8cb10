import LocaleKeys.Resolve
import LocaleKeys.Proofs.Index

/-!
# Proofs: relative keys

A relative key in a controller is completed once for each action that reaches the lookup. The main
theorem says so for every index: the search along callers, the filters of callbacks and the joining
of segments together give exactly these keys, none of them twice.
-/

namespace LocaleKeys

/-! ## Keys under an action -/

/-- The segments before the action and the key after it are the same for all actions. -/
theorem Key.toList_join_action (segments : List String) (action key : String) :
    (Key.join (segments ++ [action, key])).toList =
      segments.flatMap (fun s => s.toList ++ ['.']) ++ (action.toList ++ '.' :: key.toList) := by
  rw [Key.join, String.toList_ofList]
  induction segments with
  | nil => simp [List.intercalate_cons_cons]
  | cons s segments ih =>
    have hne : (segments ++ [action, key]).map String.toList ≠ [] := by simp
    rw [List.cons_append, List.map_cons, List.intercalate_cons_of_ne_nil hne, ih]
    simp

/-- Different actions give different keys. -/
theorem Key.join_action_injective {segments : List String} {key a b : String}
    (h : Key.join (segments ++ [a, key]) = Key.join (segments ++ [b, key])) : a = b := by
  have hchars := congrArg String.toList h
  rw [toList_join_action, toList_join_action, List.append_cancel_left_eq,
    List.append_cancel_right_eq] at hchars
  exact String.toList_inj.mp hchars

/-! ## Reading a relative key -/

theorem Key.isRelative_dot (k : String) : Key.isRelative ("." ++ k) = true := by
  simp [Key.isRelative]

/-- A lookup without a receiver whose key begins with a dot, and is more than dots, has a relative
key. -/
theorem Lookup.reading_relative {settings : Settings} {l : Lookup} {k : String}
    {interpolated : Bool} (hform : l.form = .short) (hkey : l.key = some ⟨"." ++ k, interpolated⟩)
    (hk : ∃ x ∈ k.toList, x ≠ '.') (hstrict : ¬ (interpolated = true ∧ settings.strict = true))
    (hscope : ∀ source, l.options.get? "scope" ≠ some (.dynamic source)) :
    l.reading settings = .relative k := by
  have hempty : "." ++ k ≠ "" := by
    intro h
    have := congrArg String.toList h
    simp at this
  have hstrict' : ¬ (interpolated && settings.strict) = true := by simpa using hstrict
  have hdots : ¬ Key.isDots ("." ++ k) = true := by simpa [Key.isDots] using hk
  have hdrop : String.ofList (("." ++ k).toList.drop 1) = k := by simp
  simp only [reading, hkey, hform]
  rw [if_neg hempty, if_neg hstrict', if_pos (Key.isRelative_dot k), if_neg hdots, hdrop]
  cases hoption : l.options.get? "scope" with
  | none => rfl
  | some value =>
    cases value with
    | dynamic source => exact absurd hoption (hscope source)
    | _ => rfl

/-! ## Resolving it -/

namespace Resolve

/-- Without cycles the actions that reach a call are found, each once. -/
theorem reaching_of_acyclic {c : Context} (hnames : c.NamesOnce) (hacyclic : c.Acyclic)
    (caller : Option Caller) :
    ∃ actions, reaching (CallGraph.ofContext c) caller = .ok actions ∧ actions.Nodup ∧
      ∀ a, a ∈ actions ↔ c.ReachedFrom a caller := by
  match caller with
  | none => exact ⟨[], rfl, List.nodup_nil, by simp [Context.ReachedFrom]⟩
  | some (.method m) => exact CallGraph.roots_of_acyclic hacyclic m
  | some (.callback number) =>
    exact ⟨_, rfl, CallGraph.nodup_actionsOf hnames number, fun a => CallGraph.mem_actionsOf⟩

/-- The keys of a relative lookup for which the actions that reach it are known. -/
theorem relative_keys {settings : Settings} {d : Document} {index : Index} {p : Placed}
    {c : Context} {actions : List String} (hc : index.contexts[p.context]? = some c)
    (happlies : applies settings d.path c = true)
    (hreaching : reaching (CallGraph.ofContext c) p.caller = .ok actions) (l : Lookup)
    (k : String) :
    ∃ verdict, relative settings d index p l k = .ok verdict ∧
      verdict.occurrences.map (·.key) =
        actions.map fun a => Key.join (c.space.segments ++ [a, k]) := by
  have hgraph : graph? settings d.path c = some (CallGraph.ofContext c) := by
    rw [graph?, if_pos happlies]
  simp only [relative, hc, hgraph, hreaching]
  cases actions with
  | nil => exact ⟨_, rfl, rfl⟩
  | cons a actions =>
    refine ⟨_, rfl, ?_⟩
    simp [Verdict.occurrences, Lookup.occurrence]

/-- A relative key of a controller without cyclic calls is completed by exactly the actions that
reach the lookup, and no key comes twice. That a namespace has each name once is no restriction: see
`Index.namesOnce`. -/
theorem relative_keys_exact {settings : Settings} {d : Document} {index : Index} {p : Placed}
    {c : Context} {l : Lookup} {k : String} {interpolated : Bool}
    (hmode : settings.mode = .conventions) (hc : index.contexts[p.context]? = some c)
    (hnames : c.NamesOnce) (happlies : applies settings d.path c = true) (hacyclic : c.Acyclic)
    (hsite : p.site = .lookup l) (hform : l.form = .short)
    (hkey : l.key = some ⟨"." ++ k, interpolated⟩) (hk : ∃ x ∈ k.toList, x ≠ '.')
    (hstrict : ¬ (interpolated = true ∧ settings.strict = true))
    (hscope : ∀ source, l.options.get? "scope" ≠ some (.dynamic source)) :
    ∃ verdict, site settings d index p = .ok verdict ∧
      (verdict.occurrences.map (·.key)).Nodup ∧
      ∀ key, key ∈ verdict.occurrences.map (·.key) ↔
        ∃ a, c.ReachedFrom a p.caller ∧ key = Key.join (c.space.segments ++ [a, k]) := by
  obtain ⟨actions, hreaching, hnodup, hactions⟩ := reaching_of_acyclic hnames hacyclic p.caller
  obtain ⟨verdict, hverdict, hkeys⟩ := relative_keys hc happlies hreaching l k
  have hreading := Lookup.reading_relative hform hkey hk hstrict hscope
  refine ⟨verdict, ?_, ?_, fun key => ?_⟩
  · simp only [site, hsite, hreading, hmode]
    exact hverdict
  · rw [hkeys]
    exact hnodup.map fun a b hab => Key.join_action_injective hab
  · rw [hkeys, List.mem_map]
    constructor
    · rintro ⟨a, ha, rfl⟩
      exact ⟨a, (hactions a).mp ha, rfl⟩
    · rintro ⟨a, ha, rfl⟩
      exact ⟨a, (hactions a).mpr ha, rfl⟩

/-- A lookup of a relative key in a private method `heading`. -/
def titleSite : Placed :=
  ⟨1, some (.method ⟨"heading", .priv, 6, 80⟩), .lookup ⟨.short, some ⟨".title", false⟩, [], 7, 5⟩⟩

/-- The body of a controller whose action `index` calls `heading`, and which runs `heading` before
`show` too. -/
def eventsBody : List Item :=
  [.owned (.callback ⟨"before_action", 2, ["heading"], false, some (.list ["show"]), none⟩) [],
    .owned (.method ⟨"index", .pub, 3, 40⟩) [.bareCall "heading" 4],
    .owned (.method ⟨"heading", .priv, 6, 80⟩) [.site titleSite.site]]

/-- That controller in a file. -/
def eventsOutline : Outline :=
  [.space ⟨.classSpace, ["EventsController"], ["events"], 1⟩ eventsBody]

theorem relative_keys_exact_events :
    ∃ verdict, site {} ⟨"events_controller.rb", []⟩ (Index.ofOutline eventsOutline) titleSite =
        .ok verdict ∧
      (verdict.occurrences.map (·.key)).Nodup ∧
      "events.index.title" ∈ verdict.occurrences.map (·.key) ∧
      "events.show.title" ∈ verdict.occurrences.map (·.key) := by
  have hc : (Index.ofOutline eventsOutline).contexts[titleSite.context]? =
      some (.ofBody ⟨.classSpace, ["EventsController"], ["events"], 1⟩ eventsBody) := rfl
  have happlies : applies {} "events_controller.rb"
      (.ofBody ⟨.classSpace, ["EventsController"], ["events"], 1⟩ eventsBody) = true := by
    decide +kernel
  have hacyclic := CallGraph.cycle?_eq_none_iff.mp (show (CallGraph.ofContext
    (.ofBody ⟨.classSpace, ["EventsController"], ["events"], 1⟩ eventsBody)).cycle? = none by
      decide +kernel)
  obtain ⟨verdict, hverdict, hnodup, hkeys⟩ :=
    relative_keys_exact (d := ⟨"events_controller.rb", []⟩) (k := "title") (by rfl) hc
      (Index.namesOnce (List.mem_of_getElem? hc)) happlies hacyclic rfl rfl rfl
      ⟨'t', by decide +kernel, by decide⟩ (by decide) (by simp [Options.get?])
  refine ⟨verdict, hverdict, hnodup, (hkeys _).mpr ⟨"index", Or.inl ⟨?_, .single ⟨?_, ?_⟩⟩, ?_⟩,
    (hkeys _).mpr ⟨"show", Or.inr ⟨0, _, "heading", rfl, ?_, .refl, ?_⟩, ?_⟩⟩
  · exact ⟨⟨"index", .pub, 3, 40⟩, by decide +kernel, rfl, rfl⟩
  · decide +kernel
  · exact ⟨⟨.method ⟨"index", .pub, 3, 40⟩, "heading", 4⟩, by decide +kernel, _, rfl, rfl, rfl⟩
  · decide +kernel
  · exact ⟨by decide +kernel, Or.inl ⟨_, rfl, by decide⟩⟩
  · exact ⟨["show"], rfl, by decide⟩
  · decide +kernel

end Resolve

end LocaleKeys

import LocaleKeys.Proofs.HintKeys
import LocaleKeys.Proofs.Uncommented

/-!
# Proofs: options, with braces and without

The options of a call are what its pairs say, those that are arguments and those of a hash literal
at the end. The last pair that gives an option a value wins. Braces around the options change
nothing: neither the arguments that are read, nor the keys that the call uses.
-/

namespace LocaleKeys

open Ast

/-! ## The last pair wins -/

namespace Options

/-- The option that a pair is about. Its key is a literal without interpolated expressions. -/
def Names (pair : Node) (name : String) : Prop :=
  ∃ key, pair.child? .key = some key ∧ key.stringLit? = some ⟨name, false⟩

/-- A pair gives an option a value, unless that is `nil`. -/
def Sets (pair : Node) (name : String) : Prop :=
  Names pair name ∧ ∀ value, pair.child? .value = some value → value.kind ≠ .nil

/-- A pair gives an option this value. -/
inductive Gives (pair : Node) (name : String) : OptionValue → Prop where
  /-- The value that stands in the pair. -/
  | value {value : Node} {v : OptionValue} (hname : Names pair name)
      (hvalue : pair.child? .value = some value) (hv : value.optionValue? = some v) :
      Gives pair name v
  /-- A key alone stands for a variable of its name. -/
  | variable (hname : Names pair name) (hvalue : pair.child? .value = none) :
      Gives pair name (.dynamic name)

theorem plainText?_eq_some_iff {n : Node} {s : String} :
    n.plainText? = some s ↔ n.stringLit? = some ⟨s, false⟩ := by
  rw [Node.plainText?]
  rcases n.stringLit? with _ | ⟨text, _ | _⟩ <;> simp

/-- No value but `nil` is unknown. -/
theorem optionValue?_eq_none_iff {n : Node} : n.optionValue? = none ↔ n.kind = .nil := by
  refine ⟨fun h => ?_, fun h => by rw [Node.optionValue?, h]⟩
  by_contra hkind
  rw [Node.optionValue?] at h
  split at h
  · exact hkind ‹_›
  all_goals split at h <;> cases h

theorem ofPair?_eq_some_iff {pair : Node} {name : String} {v : OptionValue} :
    ofPair? pair = some (name, v) ↔ Gives pair name v := by
  have hnames : ∀ s, (pair.child? .key).bind Node.plainText? = some s ↔ Names pair s := by
    intro s
    simp only [Option.bind_eq_some_iff, plainText?_eq_some_iff, Names]
  rw [ofPair?]
  constructor
  · intro h
    split at h
    · cases h
    · rename_i key hkey
      split at h
      · rename_i hvalue
        obtain ⟨rfl, rfl⟩ := Prod.mk.inj (Option.some.inj h)
        exact .variable ((hnames _).mp hkey) hvalue
      · rename_i value hvalue
        obtain ⟨w, hw, heq⟩ := Option.map_eq_some_iff.mp h
        obtain ⟨rfl, rfl⟩ := Prod.mk.inj heq
        exact .value ((hnames _).mp hkey) hvalue hw
  · rintro (⟨hname, hvalue, hv⟩ | ⟨hname, hvalue⟩)
    · simp only [(hnames name).mpr hname, hvalue, hv, Option.map_some]
    · simp only [(hnames name).mpr hname, hvalue]

theorem exists_gives_iff {pair : Node} {name : String} :
    (∃ v, Gives pair name v) ↔ Sets pair name := by
  constructor
  · rintro ⟨v, ⟨hname, hvalue, hv⟩ | ⟨hname, hvalue⟩⟩
    · refine ⟨hname, fun w hw hnil => ?_⟩
      obtain rfl := Option.some.inj (hvalue.symm.trans hw)
      rw [optionValue?_eq_none_iff.mpr hnil] at hv
      cases hv
    · refine ⟨hname, fun w hw => ?_⟩
      rw [hvalue] at hw
      cases hw
  · rintro ⟨hname, hnil⟩
    cases hvalue : pair.child? .value with
    | none => exact ⟨_, .variable hname hvalue⟩
    | some value =>
      have hsome : value.optionValue? ≠ none :=
        fun h => hnil value hvalue (optionValue?_eq_none_iff.mp h)
      obtain ⟨v, hv⟩ := Option.ne_none_iff_exists'.mp hsome
      exact ⟨v, .value hname hvalue hv⟩

theorem get?_cons (first name : String) (v : OptionValue) (options : Options) :
    get? ((first, v) :: options) name = if name = first then some v else options.get? name := by
  rw [get?, get?, List.lookup_cons]
  by_cases hname : name = first
  · simp [hname]
  · rw [if_neg hname, beq_eq_false_iff_ne.mpr hname]

theorem get?_insert (options : Options) (name other : String) (v : OptionValue) :
    (options.insert name v).get? other = if other = name then some v else options.get? other := by
  induction options with
  | nil => exact get?_cons name other v []
  | cons option options ih =>
    obtain ⟨first, w⟩ := option
    rw [insert]
    by_cases hfirst : first = name
    · subst hfirst
      rw [if_pos rfl, get?_cons, get?_cons]
      by_cases hother : other = first <;> simp [hother]
    · rw [if_neg hfirst, get?_cons, get?_cons, ih]
      by_cases hother : other = first
      · subst hother
        simp [hfirst]
      · simp [hother]

theorem ofPairs_append_singleton (pairs : List Node) (pair : Node) :
    ofPairs (pairs ++ [pair]) =
      match ofPair? pair with
      | some (name, v) => (ofPairs pairs).insert name v
      | none => ofPairs pairs := by
  rw [ofPairs, ofPairs, List.filterMap_append, List.foldl_append, List.filterMap_cons,
    List.filterMap_nil]
  rcases ofPair? pair with _ | ⟨name, v⟩ <;> rfl

theorem get?_ofPairs_append_of_gives {pair : Node} {name : String} {v : OptionValue}
    (h : Gives pair name v) (pairs : List Node) :
    (ofPairs (pairs ++ [pair])).get? name = some v := by
  simp only [ofPairs_append_singleton, ofPair?_eq_some_iff.mpr h, get?_insert, if_true]

theorem get?_ofPairs_append_of_not_sets {pair : Node} {name : String} (h : ¬ Sets pair name)
    (pairs : List Node) :
    (ofPairs (pairs ++ [pair])).get? name = (ofPairs pairs).get? name := by
  rw [ofPairs_append_singleton]
  cases hpair : ofPair? pair with
  | none => rfl
  | some option =>
    obtain ⟨other, v⟩ := option
    have hother : name ≠ other := by
      rintro rfl
      exact h (exists_gives_iff.mp ⟨v, ofPair?_eq_some_iff.mp hpair⟩)
    exact (get?_insert _ _ _ _).trans (if_neg hother)

theorem get?_ofPairs_eq_none_iff {pairs : List Node} {name : String} :
    (ofPairs pairs).get? name = none ↔ ∀ pair ∈ pairs, ¬ Sets pair name := by
  induction pairs using List.reverseRecOn with
  | nil => exact ⟨fun _ => List.forall_mem_nil _, fun _ => rfl⟩
  | append_singleton pairs pair ih =>
    rw [List.forall_mem_append, List.forall_mem_singleton, ← ih]
    by_cases hsets : Sets pair name
    · obtain ⟨v, hv⟩ := exists_gives_iff.mpr hsets
      simp [get?_ofPairs_append_of_gives hv, hsets]
    · simp [get?_ofPairs_append_of_not_sets hsets, hsets]

/-- An option has the value that the last pair gives it which gives it one. -/
theorem get?_ofPairs_eq_some_iff {pairs : List Node} {name : String} {v : OptionValue} :
    (ofPairs pairs).get? name = some v ↔
      ∃ before pair after, pairs = before ++ pair :: after ∧ Gives pair name v ∧
        ∀ later ∈ after, ¬ Sets later name := by
  constructor
  · -- from the end: the last pair either gives the option a value or may be left out
    intro h
    induction pairs using List.reverseRecOn with
    | nil => cases h
    | append_singleton pairs pair ih =>
      by_cases hsets : Sets pair name
      · obtain ⟨w, hw⟩ := exists_gives_iff.mpr hsets
        rw [get?_ofPairs_append_of_gives hw] at h
        obtain rfl := Option.some.inj h
        exact ⟨pairs, pair, [], rfl, hw, List.forall_mem_nil _⟩
      · rw [get?_ofPairs_append_of_not_sets hsets] at h
        obtain ⟨before, last, after, rfl, hgives, hafter⟩ := ih h
        refine ⟨before, last, after ++ [pair], by simp, hgives, ?_⟩
        exact List.forall_mem_append.mpr ⟨hafter, List.forall_mem_singleton.mpr hsets⟩
  · rintro ⟨before, pair, after, rfl, hgives, hafter⟩
    induction after using List.reverseRecOn with
    | nil => exact get?_ofPairs_append_of_gives hgives before
    | append_singleton after last ih =>
      obtain ⟨hafter, hlast⟩ := List.forall_mem_append.mp hafter
      have hassoc : before ++ pair :: (after ++ [last]) = (before ++ pair :: after) ++ [last] := by
        simp
      rw [hassoc, get?_ofPairs_append_of_not_sets (hlast last List.mem_cons_self), ih hafter]

end Options

/-! ## The pairs of arguments -/

namespace Arguments

/-- Is a node of this kind a value that is given to a call, and no option, block or comment? -/
def isValue : Kind → Bool
  | .pair | .hashSplatArgument | .blockArgument | .comment => false
  | _ => true

/-- The hash literal that gives options: the last argument, after a value. `seen` tells whether one
came before. -/
def optionHash? (seen : Bool) (nodes : List Node) : Option Node :=
  nodes.getLast?.filter fun last =>
    last.kind = .hash && (seen || nodes.dropLast.any (isValue ·.kind))

/-- The pairs directly below a node. -/
def pairsIn (n : Node) : List Node := n.named.filter (·.kind = .pair)

/-- The pairs that give options, in document order: those among the arguments, and then those of
the hash literal at the end. -/
def optionPairs (nodes : List Node) : List Node :=
  nodes.filter (·.kind = .pair) ++ (optionHash? false nodes).elim [] pairsIn

/-- The values that are given to a call, apart from the hash literal that gives options. -/
def values (nodes : List Node) : List Node :=
  (if (optionHash? false nodes).isSome then nodes.dropLast else nodes).filter (isValue ·.kind)

theorem isPositional_eq (seen : Bool) (kind : Kind) (rest : List Node) :
    isPositional seen kind rest = (isValue kind && !givesOptions seen kind rest) := by
  cases kind <;> rfl

theorem optionHash?_cons {seen : Bool} {a : Node} {rest : List Node} (h : rest ≠ []) :
    optionHash? seen (a :: rest) = optionHash? (seen || isValue a.kind) rest := by
  obtain ⟨b, rest, rfl⟩ := List.exists_cons_of_ne_nil h
  simp only [optionHash?, List.getLast?_cons_cons, List.dropLast_cons_cons, List.any_cons,
    Bool.or_assoc]

theorem optionHash?_singleton (seen : Bool) (a : Node) :
    optionHash? seen [a] = if givesOptions seen a.kind [] then some a else none := by
  simp [optionHash?, givesOptions, Option.filter]

theorem givesOptions_of_ne_nil {seen : Bool} {kind : Kind} {rest : List Node} (h : rest ≠ []) :
    givesOptions seen kind rest = false := by
  rw [givesOptions, List.isEmpty_eq_false_iff.mpr h, Bool.and_false]

theorem pairsOf_eq (seen : Bool) (nodes : List Node) :
    pairsOf seen nodes =
      nodes.filter (·.kind = .pair) ++ (optionHash? seen nodes).elim [] pairsIn := by
  induction nodes generalizing seen with
  | nil => rfl
  | cons a rest ih =>
    rw [pairsOf]
    by_cases hrest : rest = []
    · subst hrest
      rw [optionHash?_singleton]
      by_cases hpair : a.kind = .pair
      · simp [hpair, pairsOf, givesOptions]
      · cases givesOptions seen a.kind [] <;> simp [hpair, pairsOf, pairsIn]
    · rw [isPositional_eq, givesOptions_of_ne_nil hrest, optionHash?_cons hrest, Bool.not_false,
        Bool.and_true]
      by_cases hpair : a.kind = .pair
      · have hvalue : isValue a.kind = false := by rw [hpair]; rfl
        rw [if_pos hpair, ih, hvalue, Bool.or_false, List.filter_cons, decide_eq_true hpair]
        rfl
      · simp [hpair, ih]

theorem positionalOf_eq (seen : Bool) (nodes : List Node) :
    positionalOf seen nodes =
      (if (optionHash? seen nodes).isSome then nodes.dropLast else nodes).filter
        (isValue ·.kind) := by
  induction nodes generalizing seen with
  | nil => rfl
  | cons a rest ih =>
    rw [positionalOf, isPositional_eq]
    by_cases hrest : rest = []
    · subst hrest
      rw [optionHash?_singleton]
      cases givesOptions seen a.kind [] <;>
        cases hvalue : isValue a.kind <;> simp [hvalue, positionalOf]
    · rw [givesOptions_of_ne_nil hrest, optionHash?_cons hrest, Bool.not_false, Bool.and_true,
        List.dropLast_cons_of_ne_nil hrest]
      cases hvalue : isValue a.kind with
      | true =>
        rw [if_pos rfl, ih, Bool.or_true, ← apply_ite (List.cons a), List.filter_cons, hvalue]
        rfl
      | false =>
        rw [if_neg Bool.false_ne_true, ih, Bool.or_false, ← apply_ite (List.cons a),
          List.filter_cons, hvalue]
        rfl

theorem ofNodes_eq (nodes : List Node) :
    ofNodes nodes = ⟨values nodes, Options.ofPairs (optionPairs nodes)⟩ := by
  rw [ofNodes, positionalOf_eq, pairsOf_eq]
  rfl

/-! ## Braces -/

theorem kind_of_mem_pairsIn {n p : Node} (h : p ∈ pairsIn n) : p.kind = .pair :=
  of_decide_eq_true (List.mem_filter.mp h).2

theorem optionHash?_append_singleton {xs : List Node} {hash : Node}
    (hvalue : xs.any (isValue ·.kind) = true) (hkind : hash.kind = .hash) :
    optionHash? false (xs ++ [hash]) = some hash := by
  rw [optionHash?, List.getLast?_concat, List.dropLast_concat, hvalue, Option.filter_some, hkind]
  rfl

theorem optionHash?_append_pairs (xs : List Node) {ps : List Node} (hne : ps ≠ [])
    (hpairs : ∀ p ∈ ps, p.kind = .pair) : optionHash? false (xs ++ ps) = none := by
  have hlast : (ps.getLast hne).kind = .pair := hpairs _ (List.getLast_mem hne)
  rw [optionHash?, List.getLast?_append, List.getLast?_eq_some_getLast hne, Option.some_or,
    Option.filter_some, hlast]
  rfl

/-- Braces around the options change nothing. -/
theorem ofNodes_append_pairs {xs ps : List Node} {hash : Node}
    (hvalue : xs.any (isValue ·.kind) = true) (hne : ps ≠ []) (hkind : hash.kind = .hash)
    (hps : pairsIn hash = ps) : ofNodes (xs ++ ps) = ofNodes (xs ++ [hash]) := by
  have hpairs : ∀ p ∈ ps, p.kind = .pair := fun p hp => kind_of_mem_pairsIn (hps ▸ hp)
  have hnone := optionHash?_append_pairs xs hne hpairs
  have hsome := optionHash?_append_singleton hvalue hkind
  have hvalues : values (xs ++ ps) = values (xs ++ [hash]) := by
    have hno : ps.filter (isValue ·.kind) = [] :=
      List.filter_eq_nil_iff.mpr fun p hp => by rw [hpairs p hp]; exact Bool.false_ne_true
    simp [values, hnone, hsome, hno]
  have hoptions : optionPairs (xs ++ ps) = optionPairs (xs ++ [hash]) := by
    have hall : ps.filter (·.kind = .pair) = ps :=
      List.filter_eq_self.mpr fun p hp => decide_eq_true (hpairs p hp)
    simp [optionPairs, hnone, hsome, hall, hkind, hps]
  rw [ofNodes_eq, ofNodes_eq, hvalues, hoptions]

end Arguments

/-! ## Calls with the same arguments -/

/-- A lookup at another place. -/
def Lookup.movedTo (line column : Nat) (l : Lookup) : Lookup := { l with line, column }

/-- A record helper at another place. -/
def Helper.movedTo (line column : Nat) (h : Helper) : Helper := { h with line, column }

/-- A call site at another place. -/
def Site.movedTo (line column : Nat) : Site → Site
  | .lookup l => .lookup (l.movedTo line column)
  | .helper h => .helper (h.movedTo line column)

/-- Two calls of one method on one receiver, with arguments that say the same. -/
structure Arguments.SameCall (a b : Node) : Prop where
  method : a.child? .method = b.child? .method
  receiver : a.child? .receiver = b.child? .receiver
  arguments : ofCall a = ofCall b

namespace Arguments.SameCall

variable {a b : Node} (h : SameCall a b) (settings : Settings)

include h

theorem lookup_eq :
    Lookup.ofCall? settings b =
      (Lookup.ofCall? settings a).map (Lookup.movedTo b.line b.column) := by
  have hform : Lookup.formOf? settings a = Lookup.formOf? settings b := by
    simp only [Lookup.formOf?, h.method, h.receiver]
  rw [Lookup.ofCall?, Lookup.ofCall?, hform, h.arguments, Option.map_map]
  rfl

theorem helper_eq :
    Helper.ofCall? settings b =
      (Helper.ofCall? settings a).map (Helper.movedTo b.line b.column) := by
  rw [Helper.ofCall?, Helper.ofCall?, h.method, h.receiver, h.arguments]
  split
  · dsimp only
    split
    · rfl
    · split
      · rw [Option.map_map]
        rfl
      · rfl
  · rfl

theorem sites_eq :
    Site.ofCall settings b = (Site.ofCall settings a).map (Site.movedTo b.line b.column) := by
  rw [Site.ofCall, Site.ofCall, h.lookup_eq, h.helper_eq, List.map_append]
  rcases Lookup.ofCall? settings a with _ | l <;>
    rcases Helper.ofCall? settings a with _ | k <;> rfl

theorem hint_eq : Hint.ofCall? settings b = Hint.ofCall? settings a := by
  rw [Hint.ofCall?, Hint.ofCall?, h.lookup_eq]
  rcases Lookup.ofCall? settings a with _ | l <;> rfl

end Arguments.SameCall

namespace Resolve

variable (settings : Settings) (d : Document) (index : Index)

/-- The keys that a call site uses. -/
def keysAt (p : Placed) : Except (List String) (List String) :=
  (site settings d index p).map fun verdict => verdict.occurrences.map (·.key)

/-- The keys that a call site uses do not depend on its line and column. -/
theorem keysAt_movedTo (p : Placed) (line column : Nat) :
    keysAt settings d index { p with site := p.site.movedTo line column } =
      keysAt settings d index p := by
  obtain ⟨here, caller, s⟩ := p
  cases s with
  | helper k =>
    obtain ⟨kind, model, argument, _, _⟩ := k
    simp only [keysAt, site, Site.movedTo, Helper.movedTo, Helper.verdict]
    cases settings.mode with
    | plain => rfl
    | conventions =>
      cases kind with
      | modelName => rfl
      | attributeName =>
        dsimp only
        split
        · split <;> rfl
        · rfl
  | lookup l =>
    have hreading : (l.movedTo line column).reading settings = l.reading settings := rfl
    simp only [keysAt, site, Site.movedTo, hreading]
    cases l.reading settings with
    | unusable reason => rfl
    | complete key => rfl
    | relative key =>
      cases settings.mode with
      | plain => rfl
      | conventions =>
        simp only [relative]
        split
        · rfl
        · split
          · rfl
          · split
            · rfl
            · rfl
            · simp only [Except.map, Verdict.occurrences, List.map_map]
              rfl

end Resolve

namespace Arguments

/-- What a call is given is read from its pairs and values. An option has the value of the last pair
that gives it one, and braces around the options make no difference: neither to what is read, nor
to the lookup, the hint and the keys of a call. -/
theorem options_however_written :
    (∀ nodes, (ofNodes nodes).positional = values nodes) ∧
    (∀ nodes name v, (ofNodes nodes).options.get? name = some v ↔
      ∃ before pair after, optionPairs nodes = before ++ pair :: after ∧
        Options.Gives pair name v ∧ ∀ later ∈ after, ¬ Options.Sets later name) ∧
    (∀ nodes name, (ofNodes nodes).options.get? name = none ↔
      ∀ pair ∈ optionPairs nodes, ¬ Options.Sets pair name) ∧
    ∀ xs ps hash, xs.any (isValue ·.kind) = true → ps ≠ [] → hash.kind = .hash →
      pairsIn hash = ps →
      ofNodes (xs ++ ps) = ofNodes (xs ++ [hash]) ∧
      ∀ a b : Node, a.child? .method = b.child? .method → a.child? .receiver = b.child? .receiver →
        nodesOf a = xs ++ ps → nodesOf b = xs ++ [hash] → ∀ settings,
        Lookup.ofCall? settings b =
          (Lookup.ofCall? settings a).map (Lookup.movedTo b.line b.column) ∧
        Hint.ofCall? settings b = Hint.ofCall? settings a ∧
        ∀ d index here caller,
          (Site.ofCall settings b).map
              (fun s => Resolve.keysAt settings d index ⟨here, caller, s⟩) =
            (Site.ofCall settings a).map
              fun s => Resolve.keysAt settings d index ⟨here, caller, s⟩ := by
  refine ⟨fun nodes => by rw [ofNodes_eq], ?_, ?_, ?_⟩
  · intro nodes name v
    rw [ofNodes_eq, Options.get?_ofPairs_eq_some_iff]
  · intro nodes name
    rw [ofNodes_eq, Options.get?_ofPairs_eq_none_iff]
  · intro xs ps hash hvalue hne hkind hps
    have hsame := ofNodes_append_pairs hvalue hne hkind hps
    refine ⟨hsame, ?_⟩
    intro a b hmethod hreceiver ha hb settings
    have harguments : ofCall a = ofCall b :=
      calc ofCall a = ofNodes (nodesOf a) := rfl
        _ = ofNodes (nodesOf b) := by rw [ha, hb, hsame]
        _ = ofCall b := rfl
    have hcall : SameCall a b := ⟨hmethod, hreceiver, harguments⟩
    refine ⟨hcall.lookup_eq settings, hcall.hint_eq settings, ?_⟩
    intro d index here caller
    rw [hcall.sites_eq, List.map_map]
    exact List.map_congr_left fun s _ =>
      Resolve.keysAt_movedTo settings d index ⟨here, caller, s⟩ b.line b.column

/-- A scope that is given three times, the last time as `nil`. -/
def threeScopes : List Node :=
  [Scan.optionOf "scope" (Scan.quoted "menu"), Scan.optionOf "scope" (Scan.quoted "top"),
    Scan.optionOf "scope" ⟨{ kind := .nil, text := "nil" }, []⟩]

/-- These options in braces, with a comment among them. -/
def threeScopesBraced : Node :=
  ⟨{ kind := .hash }, ⟨{ kind := .comment, text := "# where" }, []⟩ :: threeScopes⟩

/-- A key and options that are splatted. -/
def keyAndSplat : List Node :=
  [Scan.quoted "home", ⟨{ kind := .hashSplatArgument, text := "**options" }, []⟩]

theorem options_however_written_scopes :
    keyAndSplat.any (isValue ·.kind) = true ∧ threeScopes ≠ [] ∧
    threeScopesBraced.kind = .hash ∧ pairsIn threeScopesBraced = threeScopes ∧
    (ofNodes (keyAndSplat ++ [threeScopesBraced])).options.get? "scope" = some (.literal "top") ∧
    ofNodes (keyAndSplat ++ threeScopes) = ofNodes (keyAndSplat ++ [threeScopesBraced]) ∧
    Hint.ofCall? {} (Scan.callOf "t" 1 (keyAndSplat ++ [threeScopesBraced])) =
      Hint.ofCall? {} (Scan.callOf "t" 1 (keyAndSplat ++ threeScopes)) := by
  have hlaw := options_however_written.2.2.2 keyAndSplat threeScopes threeScopesBraced (by decide)
    (List.cons_ne_nil _ _) rfl rfl
  exact ⟨by decide, List.cons_ne_nil _ _, rfl, rfl, by decide, hlaw.1,
    (hlaw.2 (Scan.callOf "t" 1 (keyAndSplat ++ threeScopes))
      (Scan.callOf "t" 1 (keyAndSplat ++ [threeScopesBraced])) rfl rfl rfl rfl {}).2.1⟩

end Arguments

end LocaleKeys

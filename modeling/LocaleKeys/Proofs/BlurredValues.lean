import LocaleKeys.Proofs.Index
import LocaleKeys.Proofs.Verdicts

/-!
# Proofs: values that nobody tells apart

An array of texts counts where it gives a scope or the names of actions. Anywhere else it is as good
as an expression that has to be run: blurring the two changes no verdict.
-/

namespace LocaleKeys

/-- A value that does not tell an array of texts from an expression that has to be run. -/
def OptionValue.blurred : OptionValue → OptionValue
  | .list _ | .dynamic _ => .dynamic ""
  | v => v

namespace Options

/-- The options whose names or segments are read. -/
def listed : List String := ["scope", "only", "except"]

/-- The value of an option, blurred unless its names or segments are read. -/
def blurredAt (name : String) (v : OptionValue) : OptionValue :=
  if name ∈ listed then v else v.blurred

/-- An option with its value blurred unless its names or segments are read. -/
def blurredPair (option : String × OptionValue) : String × OptionValue :=
  (option.1, blurredAt option.1 option.2)

/-- Options with their values blurred unless their names or segments are read. -/
def blurred (options : Options) : Options := options.map blurredPair

theorem get?_blurred (options : Options) (name : String) :
    options.blurred.get? name = (options.get? name).map (blurredAt name) := by
  induction options with
  | nil => rfl
  | cons option options ih =>
    obtain ⟨other, v⟩ := option
    have hcons : blurred ((other, v) :: options) =
        (other, blurredAt other v) :: blurred options := rfl
    rw [get?, get?] at ih ⊢
    rw [hcons, List.lookup_cons, List.lookup_cons]
    by_cases hname : name = other
    · subst hname
      simp
    · rw [beq_eq_false_iff_ne.mpr hname]
      exact ih

theorem get?_blurred_of_mem {name : String} (hname : name ∈ listed) (options : Options) :
    options.blurred.get? name = options.get? name := by
  have hsame : blurredAt name = id := funext fun v => if_pos hname
  rw [get?_blurred, hsame, Option.map_id_fun, id]

theorem blurred_insert (name : String) (v : OptionValue) (options : Options) :
    (options.insert name v).blurred = options.blurred.insert name (blurredAt name v) := by
  induction options with
  | nil => rfl
  | cons option options ih =>
    obtain ⟨other, w⟩ := option
    have hcons : blurred ((other, w) :: options) =
        (other, blurredAt other w) :: blurred options := rfl
    rw [hcons, insert, insert]
    by_cases hname : other = name
    · subst hname
      simp [blurred, blurredPair]
    · rw [if_neg hname, if_neg hname, ← ih]
      rfl

/-- Blurred options are made of blurred pairs. -/
theorem blurred_foldl_insert (pairs : List (String × OptionValue)) (options : Options) :
    (pairs.foldl (fun options (name, v) => options.insert name v) options).blurred =
      (pairs.map blurredPair).foldl (fun options (name, v) => options.insert name v)
        options.blurred := by
  induction pairs generalizing options with
  | nil => rfl
  | cons pair pairs ih => exact (ih _).trans (by rw [blurred_insert]; rfl)

end Options

/-- A lookup with its options blurred. -/
def Lookup.blurred (l : Lookup) : Lookup := { l with options := l.options.blurred }

/-- A record helper with its argument blurred. -/
def Helper.blurred (h : Helper) : Helper :=
  { h with argument := h.argument.map OptionValue.blurred }

/-- A site with the values blurred that nobody tells apart. -/
def Site.blurred : Site → Site
  | .lookup l => .lookup l.blurred
  | .helper h => .helper h.blurred

/-! ## Verdicts on blurred sites -/

theorem Options.default?_blurred (options : Options) :
    options.blurred.default? = options.default? := by
  have hname : blurredAt "default" = OptionValue.blurred := rfl
  rw [default?, default?, get?_blurred, hname]
  rcases options.get? "default" with _ | _ | _ | _ | _ <;> rfl

theorem Lookup.reading_blurred (settings : Settings) (l : Lookup) :
    l.blurred.reading settings = l.reading settings := by
  have hscope : l.options.blurred.get? "scope" = l.options.get? "scope" :=
    Options.get?_blurred_of_mem (by decide) l.options
  simp only [reading, blurred, withScope, Key.absolute?, hscope]

theorem Lookup.occurrence_blurred (l : Lookup) (d : Document) (key : String) :
    l.blurred.occurrence d key = l.occurrence d key := by
  simp only [occurrence, blurred, Options.default?_blurred]

theorem Helper.verdict_blurred (h : Helper) (d : Document) : h.blurred.verdict d = h.verdict d := by
  obtain ⟨kind, model, argument, line, column⟩ := h
  cases kind with
  | modelName => rcases argument with _ | _ | _ | _ | _ <;> rfl
  | attributeName => rcases argument with _ | _ | _ | _ | _ <;> rfl

namespace Resolve

variable (settings : Settings) (d : Document)

theorem verdictAt_blurred (index : Index) (p : Placed) :
    verdictAt settings d index { p with site := p.site.blurred } =
      verdictAt settings d index p := by
  obtain ⟨here, caller, s⟩ := p
  have hsite : site settings d index ⟨here, caller, s.blurred⟩ =
      site settings d index ⟨here, caller, s⟩ := by
    cases s with
    | helper h => simp only [site, Site.blurred, Helper.verdict_blurred]
    | lookup l =>
      have hdrop : ∀ reason, l.blurred.drop d reason = l.drop d reason := fun _ => rfl
      simp only [site, Site.blurred, Lookup.reading_blurred, relative, hdrop,
        Lookup.occurrence_blurred]
  rw [verdictAt, verdictAt, hsite]

end Resolve

/-! ## Blurred outlines -/

namespace Item

mutual

/-- An item with its sites blurred. -/
def blurred : Item → Item
  | .space s body => .space s (blurredAll body)
  | .owned owner body => .owned owner (blurredAll body)
  | .site s => .site s.blurred
  | i => i

/-- Items with their sites blurred. -/
def blurredAll : List Item → List Item
  | [] => []
  | i :: is => i.blurred :: blurredAll is

end

theorem blurredAll_eq (is : List Item) : blurredAll is = is.map blurred := by
  induction is with
  | nil => rfl
  | cons i is ih => rw [blurredAll, ih, List.map_cons]

mutual

theorem definitions_blurred (i : Item) : i.blurred.definitions = i.definitions := by
  match i with
  | .owned (.method m) body => exact congrArg (m :: ·) (definitionsAll_blurredAll body)
  | .owned .nobody body | .owned (.callback _) body => exact definitionsAll_blurredAll body
  | .space .. | .directive .. | .bareCall .. | .site .. => rfl

theorem definitionsAll_blurredAll (is : List Item) :
    definitionsAll (blurredAll is) = definitionsAll is := by
  match is with
  | [] => rfl
  | i :: is =>
    rw [blurredAll, definitionsAll, definitions_blurred, definitionsAll_blurredAll, definitionsAll]

end

mutual

theorem registrations_blurred (i : Item) : i.blurred.registrations = i.registrations := by
  match i with
  | .owned (.callback r) body => exact congrArg (r :: ·) (registrationsAll_blurredAll body)
  | .owned .nobody body | .owned (.method _) body => exact registrationsAll_blurredAll body
  | .space .. | .directive .. | .bareCall .. | .site .. => rfl

theorem registrationsAll_blurredAll (is : List Item) :
    registrationsAll (blurredAll is) = registrationsAll is := by
  match is with
  | [] => rfl
  | i :: is =>
    rw [blurredAll, registrationsAll, registrations_blurred, registrationsAll_blurredAll,
      registrationsAll]

end

mutual

theorem calls_blurred (caller : Option Caller) (callbacks : Nat) (i : Item) :
    i.blurred.calls caller callbacks = i.calls caller callbacks := by
  match i with
  | .owned owner body => exact callsAll_blurredAll _ _ body
  | .space .. | .directive .. | .bareCall .. | .site .. => rfl

theorem callsAll_blurredAll (caller : Option Caller) (callbacks : Nat) (is : List Item) :
    callsAll caller callbacks (blurredAll is) = callsAll caller callbacks is := by
  match is with
  | [] => rfl
  | i :: is =>
    rw [blurredAll, callsAll, calls_blurred, registrations_blurred, callsAll_blurredAll, callsAll]

end

theorem directives_blurredAll (is : List Item) : directives (blurredAll is) = directives is := by
  induction is with
  | nil => rfl
  | cons i is ih =>
    cases i with
    | directive names v => exact congrArg (names.map (fun name => (name, v)) ++ ·) ih
    | space | owned | bareCall | site => exact ih

theorem ofBody_blurredAll (space : Space) (is : List Item) :
    Context.ofBody space (blurredAll is) = Context.ofBody space is := by
  rw [Context.ofBody, Context.ofBody, definitionsAll_blurredAll, registrationsAll_blurredAll,
    callsAll_blurredAll, directives_blurredAll]

mutual

theorem contexts_blurred (outer : Space) (i : Item) :
    i.blurred.contexts outer = i.contexts outer := by
  match i with
  | .space s body =>
    rw [blurred, contexts, ofBody_blurredAll, contextsAll_blurredAll, contexts]
  | .owned owner body => exact contextsAll_blurredAll outer body
  | .directive .. | .bareCall .. | .site .. => rfl

theorem contextsAll_blurredAll (outer : Space) (is : List Item) :
    contextsAll outer (blurredAll is) = contextsAll outer is := by
  match is with
  | [] => rfl
  | i :: is => rw [blurredAll, contextsAll, contexts_blurred, contextsAll_blurredAll, contextsAll]

end

theorem spaceCount_blurred (i : Item) : i.blurred.spaceCount = i.spaceCount := by
  rw [← length_contexts Space.root, contexts_blurred, length_contexts]

mutual

theorem sites_blurred (here spaces callbacks : Nat) (caller : Option Caller) (i : Item) :
    i.blurred.sites here spaces callbacks caller =
      (i.sites here spaces callbacks caller).map fun p => { p with site := p.site.blurred } := by
  match i with
  | .space s body => exact sitesAll_blurredAll _ _ _ _ body
  | .owned owner body => exact sitesAll_blurredAll _ _ _ _ body
  | .directive .. | .bareCall .. | .site .. => rfl

theorem sitesAll_blurredAll (here spaces callbacks : Nat) (caller : Option Caller)
    (is : List Item) :
    sitesAll here spaces callbacks caller (blurredAll is) =
      (sitesAll here spaces callbacks caller is).map fun p =>
        { p with site := p.site.blurred } := by
  match is with
  | [] => rfl
  | i :: is =>
    rw [blurredAll, sitesAll, sites_blurred, spaceCount_blurred, registrations_blurred,
      sitesAll_blurredAll, sitesAll, List.map_append]

end

end Item

namespace Resolve

variable {settings : Settings} {d : Document}

/-- A verdict depends on the namespaces of the index only. -/
theorem verdictAt_eq_of_contexts {index index' : Index} (h : index.contexts = index'.contexts)
    (p : Placed) : verdictAt settings d index p = verdictAt settings d index' p := by
  have hrelative : ∀ l key, relative settings d index p l key =
      relative settings d index' p l key := by
    intro l key
    rw [relative, relative, h]
  simp only [verdictAt, site, hrelative]

theorem contexts_ofOutline_blurredAll (outline : Outline) :
    (Index.ofOutline (Item.blurredAll outline)).contexts = (Index.ofOutline outline).contexts := by
  rw [Index.ofOutline, Index.ofOutline, Item.ofBody_blurredAll, Item.contextsAll_blurredAll]

theorem verdicts_blurredAll (outline : Outline) :
    verdicts settings d (Index.ofOutline (Item.blurredAll outline)) =
      verdicts settings d (Index.ofOutline outline) := by
  have hsites : (Index.ofOutline (Item.blurredAll outline)).sites =
      (Index.ofOutline outline).sites.map fun p => { p with site := p.site.blurred } :=
    Item.sitesAll_blurredAll 0 1 0 none outline
  rw [verdicts, verdicts, hsites, List.map_map]
  refine List.map_congr_left fun p _ => ?_
  rw [Function.comp_apply, verdictAt_blurred]
  exact verdictAt_eq_of_contexts (contexts_ofOutline_blurredAll outline) p

/-- A blurred outline gives the same uses of keys, or the same fault. -/
theorem outcome_blurredAll (settings : Settings) (d : Document) (outline : Outline) :
    outcome settings d (Index.ofOutline (Item.blurredAll outline)) =
      outcome settings d (Index.ofOutline outline) := by
  have hstopped : stopped? settings d (Index.ofOutline (Item.blurredAll outline)) =
      stopped? settings d (Index.ofOutline outline) := by
    rw [stopped?, stopped?, contexts_ofOutline_blurredAll]
  rw [outcome_eq, outcome_eq, hstopped, verdicts_blurredAll]

end Resolve

end LocaleKeys

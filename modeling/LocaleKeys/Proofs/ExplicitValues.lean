import LocaleKeys.Environment
import Mathlib.Data.List.Basic

/-!
# Proofs: explicit values and the environment

A value that is given explicitly hides the variable for its field: two environments that differ in
this variable only give the same configuration, or the same fault. The mode is the exception. Its
variable is read before the explicit values are looked at, so one that holds no mode is a fault even
where the mode is given explicitly.
-/

namespace LocaleKeys

open Data

/-! ## What a configuration depends on -/

namespace Configuration

variable {entries entries' : List (String × Value)}

/-- Later entries hide earlier ones of the same name. -/
theorem field?_append (entries entries' : List (String × Value)) (name : String) :
    field? (entries ++ entries') name = (field? entries' name).or (field? entries name) := by
  rw [field?, List.reverse_append, List.find?_append, field?, field?]
  cases entries'.reverse.find? (·.1 == name) <;> rfl

theorem field?_isSome_iff {name : String} :
    (field? entries name).isSome = true ↔ ∃ v, (name, v) ∈ entries := by
  rw [field?, Option.isSome_map, List.find?_isSome]
  constructor
  · rintro ⟨⟨n, v⟩, hmem, hn⟩
    rw [beq_iff_eq] at hn
    exact ⟨v, hn ▸ List.mem_reverse.mp hmem⟩
  · rintro ⟨v, hmem⟩
    exact ⟨_, List.mem_reverse.mpr hmem, beq_self_eq_true name⟩

/-- Only the entries of a name count for the field of that name. -/
theorem field?_map_congr {α : Type} {as : List α} {names : α → String} {values values' : α → Value}
    {name : String} (h : ∀ a ∈ as, names a = name → values a = values' a) :
    field? (as.map fun a => (names a, values a)) name =
      field? (as.map fun a => (names a, values' a)) name := by
  rw [field?, field?, ← List.map_reverse, ← List.map_reverse, List.find?_map, List.find?_map]
  have hsame : ((fun e : String × Value => e.1 == name) ∘ fun a => (names a, values a)) =
      ((fun e : String × Value => e.1 == name) ∘ fun a => (names a, values' a)) := rfl
  rw [hsame]
  cases hfind : as.reverse.find? ((fun e => e.1 == name) ∘ fun a => (names a, values' a)) with
  | none => rfl
  | some a =>
    have hmem : a ∈ as := List.mem_reverse.mp (List.mem_of_find?_eq_some hfind)
    have hname := List.find?_some hfind
    exact congrArg some (h a hmem (eq_of_beq hname))

/-- A configuration is given by the names of the entries and the values of the fields. -/
theorem ofEntries_congr (hnames : entries.map (·.1) = entries'.map (·.1))
    (hfields : ∀ name, field? entries name = field? entries' name) :
    ofEntries entries = ofEntries entries' := by
  have hlists : ∀ name standard,
      listField entries name standard = listField entries' name standard := by
    intro name standard
    rw [listField, listField, hfields]
  have hmode : ∀ standard, modeField entries standard = modeField entries' standard := by
    intro standard
    rw [modeField, modeField, hfields]
  have hunknown : unknown? entries = unknown? entries' := by
    rw [unknown?, unknown?, hnames]
  rw [ofEntries, ofEntries, hunknown]
  simp only [ofFields, hmode, hlists, hfields]

end Configuration

namespace Mode

variable {s : String}

theorem ofValue_str_of_some {mode : Mode} (h : ofName? s = some mode) :
    ofValue (.str s) = .ok mode := by
  have htext : ofName? (Value.str s).text = some mode := h
  delta ofValue
  rw [htext]

theorem ofValue_str_of_none (h : ofName? s = none) :
    ofValue (.str s) = .error (.invalid "mode" (.str s) expected) := by
  have htext : ofName? (Value.str s).text = none := h
  delta ofValue
  rw [htext]

end Mode

namespace Environment

open LocaleKeys.Configuration

/-! ## The fields with a variable -/

/-- The fields that the environment may give. -/
inductive Field where
  /-- The mode. -/
  | mode
  /-- The directories in which controllers live. -/
  | roots
  /-- The marker of comments. -/
  | marker
  /-- Are interpolated keys dropped? -/
  | strict
  deriving DecidableEq

/-- The name of a field. -/
def Field.name : Field → String
  | .mode => "mode"
  | .roots => "relative_roots"
  | .marker => "magic_comment_marker"
  | .strict => "strict"

/-- The variable that gives a field. -/
def Field.variable : Field → String
  | .mode => "I18N_SCAN_MODE"
  | .roots => "I18N_SCAN_RELATIVE_ROOTS"
  | .marker => "I18N_SCAN_MAGIC_MARKER"
  | .strict => "I18N_SCAN_STRICT"

/-- Two environments differ in one variable at most. -/
def DifferIn (name : String) (env env' : Environment) : Prop :=
  ∀ other, other ≠ name → env.get? other = env'.get? other

/-- A field has an explicit value. -/
def Field.IsGiven (f : Field) (explicit : List (String × Value)) : Prop :=
  ∃ v, (f.name, v) ∈ explicit ∧ v ≠ .null

/-- The variable for the mode is not set, or it names a mode. -/
def ReadsMode (env : Environment) : Prop :=
  ∀ s, env.get? Field.mode.variable = some s → (Mode.ofName? s).isSome = true

/-- What the environment gives for a field, once the mode is read. -/
def value (env : Environment) (mode : Mode) : Field → Value
  | .mode => .str mode.name
  | .roots => .list (env.roots.map .str)
  | .marker => .str env.marker
  | .strict => .bool env.strict

/-- The entries that the environment gives. -/
def entries (env : Environment) (mode : Mode) : List (String × Value) :=
  [Field.mode, .roots, .marker, .strict].map fun f => (f.name, env.value mode f)

/-- The explicit values that are not absent. -/
def present (explicit : List (String × Value)) : List (String × Value) :=
  explicit.filter fun e => !(e.2 matches .null)

variable {env env' : Environment} {explicit : List (String × Value)} {f : Field}

theorem configuration_eq (env : Environment) (explicit : List (String × Value)) :
    env.configuration explicit =
      env.mode >>= fun mode => ofEntries (env.entries mode ++ present explicit) := rfl

theorem configuration_of_mode {mode : Mode} (h : env.mode = .ok mode) :
    env.configuration explicit = ofEntries (env.entries mode ++ present explicit) := by
  rw [configuration_eq, h]
  rfl

theorem map_fst_entries (env : Environment) (mode : Mode) :
    (env.entries mode).map (·.1) = [Field.mode, .roots, .marker, .strict].map Field.name := by
  rw [entries, List.map_map]
  rfl

/-- No two fields share a variable. -/
theorem Field.variable_ne {f g : Field} (h : g ≠ f) : g.variable ≠ f.variable := by
  intro hvariable
  cases f <;> cases g <;> simp [Field.variable] at h hvariable

theorem Field.IsGiven.field?_isSome (h : f.IsGiven explicit) :
    (field? (present explicit) f.name).isSome = true := by
  obtain ⟨v, hmem, hv⟩ := h
  refine field?_isSome_iff.mpr ⟨v, List.mem_filter.mpr ⟨hmem, ?_⟩⟩
  cases v with
  | null => exact absurd rfl hv
  | bool | int | str | list | object => rfl

/-! ## The variable for the mode -/

theorem mode_congr (h : DifferIn f.variable env env') (hf : f ≠ .mode) : env.mode = env'.mode := by
  have hget := h _ (Field.variable_ne hf.symm)
  simp only [Field.variable] at hget
  rw [mode, mode, hget]

theorem ReadsMode.exists_mode (h : env.ReadsMode) : ∃ mode, env.mode = .ok mode := by
  rw [mode]
  cases hget : env.get? "I18N_SCAN_MODE" with
  | none => exact ⟨_, rfl⟩
  | some s =>
    obtain ⟨mode, hmode⟩ := Option.isSome_iff_exists.mp (h s hget)
    exact ⟨mode, Mode.ofValue_str_of_some hmode⟩

theorem configuration_of_unreadable {s : String} (hget : env.get? Field.mode.variable = some s)
    (hs : Mode.ofName? s = none) :
    env.configuration explicit = .error (.invalid "mode" (.str s) Mode.expected) := by
  have hmode : env.mode = .error (.invalid "mode" (.str s) Mode.expected) := by
    rw [Field.variable] at hget
    rw [mode, hget]
    exact Mode.ofValue_str_of_none hs
  rw [configuration_eq, hmode]
  rfl

/-! ## All variables -/

/-- A field that another variable gives has the same value. -/
theorem value_congr (h : DifferIn f.variable env env') {mode mode' : Mode} {g : Field}
    (hmode : g = .mode → mode = mode') (hg : g ≠ f) : env.value mode g = env'.value mode' g := by
  have hget : env.get? g.variable = env'.get? g.variable := h _ (Field.variable_ne hg)
  cases g with
  | mode => rw [value, value, hmode rfl]
  | roots =>
    rw [Field.variable] at hget
    rw [value, value, roots, roots, hget]
  | marker =>
    rw [Field.variable] at hget
    rw [value, value, marker, marker, hget]
  | strict =>
    rw [Field.variable] at hget
    rw [value, value, strict, strict, hget]

/-- Whatever the variable holds that an explicit value hides, the rest gives the configuration. -/
theorem ofEntries_entries_congr (h : DifferIn f.variable env env') (hgiven : f.IsGiven explicit)
    {mode mode' : Mode} (hmode : f ≠ .mode → mode = mode') :
    ofEntries (env.entries mode ++ present explicit) =
      ofEntries (env'.entries mode' ++ present explicit) := by
  refine ofEntries_congr ?_ fun name => ?_
  · rw [List.map_append, List.map_append, map_fst_entries, map_fst_entries]
  rw [field?_append, field?_append]
  by_cases hname : name = f.name
  · obtain ⟨v, hv⟩ := Option.isSome_iff_exists.mp hgiven.field?_isSome
    rw [hname, hv, Option.some_or, Option.some_or]
  · have hentries : field? (env.entries mode) name = field? (env'.entries mode') name := by
      refine field?_map_congr fun g _ hg => ?_
      have hne : g ≠ f := fun heq => hname (heq ▸ hg.symm)
      exact value_congr h (fun hgmode => hmode (hgmode ▸ hne.symm)) hne
    rw [hentries]

/-- **Explicit values.** Where a field is given explicitly, two environments that differ only in its
variable give the same configuration or the same fault, whatever the variable holds. For the mode
this takes that the variable names a mode or is not set; any other text is the fault, whatever is
given explicitly. -/
theorem explicit_values_win (f : Field) (env env' : Environment) (explicit : List (String × Value))
    (hdiffer : DifferIn f.variable env env') (hgiven : f.IsGiven explicit) :
    (f ≠ .mode → env.configuration explicit = env'.configuration explicit) ∧
    (env.ReadsMode → env'.ReadsMode → env.configuration explicit = env'.configuration explicit) ∧
    ∀ s, env.get? Field.mode.variable = some s → Mode.ofName? s = none →
      env.configuration explicit = .error (.invalid "mode" (.str s) Mode.expected) := by
  refine ⟨fun hf => ?_, fun hreads hreads' => ?_, fun s => configuration_of_unreadable⟩
  · rw [configuration_eq, configuration_eq, mode_congr hdiffer hf]
    exact bind_congr fun mode => ofEntries_entries_congr hdiffer hgiven fun _ => rfl
  · obtain ⟨mode, hmode⟩ := hreads.exists_mode
    obtain ⟨mode', hmode'⟩ := hreads'.exists_mode
    have hsame : f ≠ .mode → mode = mode' := by
      intro hf
      rw [mode_congr hdiffer hf, hmode'] at hmode
      exact (Except.ok.inj hmode).symm
    rw [configuration_of_mode hmode, configuration_of_mode hmode']
    exact ofEntries_entries_congr hdiffer hgiven hsame

theorem explicit_values_win_modes :
    let env : Environment := [("I18N_SCAN_MODE", " Ruby"), ("I18N_SCAN_STRICT", "On")]
    let env' : Environment := [("I18N_SCAN_STRICT", "On")]
    let explicit := [("strict", .null), ("mode", .str "rails")]
    DifferIn Field.mode.variable env env' ∧ Field.mode.IsGiven explicit ∧
      env.ReadsMode ∧ env'.ReadsMode ∧
      env.configuration explicit = env'.configuration explicit := by
  intro env env' explicit
  have hdiffer : DifferIn Field.mode.variable env env' := by
    intro other hother
    have hne : (other == "I18N_SCAN_MODE") = false := beq_eq_false_iff_ne.mpr hother
    simp only [get?, env, env', List.lookup_cons, List.lookup_nil, hne]
  have hgiven : Field.mode.IsGiven explicit :=
    ⟨.str "rails", by simp [explicit, Field.name], by simp⟩
  have hreads : env.ReadsMode := by
    intro s hs
    obtain rfl : " Ruby" = s := by simpa [get?, env, Field.variable, List.lookup_cons] using hs
    decide +kernel
  have hreads' : env'.ReadsMode := by
    intro s hs
    simp [get?, env', Field.variable, List.lookup_cons] at hs
  obtain ⟨-, hsame, -⟩ := explicit_values_win .mode env env' explicit hdiffer hgiven
  exact ⟨hdiffer, hgiven, hreads, hreads', hsame hreads hreads'⟩

/-- A variable that names no mode makes a difference where the mode is given explicitly: with it
there is a fault, and without it there is none. -/
theorem unreadable_mode_counts :
    let env : Environment := [("I18N_SCAN_MODE", "haml")]
    let env' : Environment := []
    let explicit := [("mode", .str "plain")]
    DifferIn Field.mode.variable env env' ∧ Field.mode.IsGiven explicit ∧
      env.configuration explicit =
        .error (.invalid "mode" (.str "haml") Mode.expected) ∧
      (env'.configuration explicit).toOption.map settings = some { mode := .plain } := by
  intro env env' explicit
  refine ⟨fun other hother => ?_, ⟨.str "plain", by simp [explicit, Field.name], by simp⟩,
    configuration_of_unreadable rfl (by decide +kernel), ?_⟩
  · have hne : (other == "I18N_SCAN_MODE") = false := beq_eq_false_iff_ne.mpr hother
    simp only [get?, env, env', List.lookup_cons, List.lookup_nil, hne]
  · decide +kernel

end Environment

end LocaleKeys

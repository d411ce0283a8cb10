import LocaleKeys.Proofs.EntryPoints
import LocaleKeys.Proofs.Files
import LocaleKeys.Proofs.Terminals
import Mathlib.Data.List.Sort

/-!
# Proofs: what a command reports

A command scans one file after another. A scan that fails adds one error, and all that the others
find is printed in the end. So a broken file takes nothing from what is reported of the rest:
without it the report is the same. What a reader gets to see depends on the terminal; a faithful one
shows the keys and the errors as they are.
-/

namespace LocaleKeys

open Ast

/-- The scan of bytes fails with faults of the scan itself only. -/
theorem Scan.isScanFault_of_bytes {parse : Parser} {settings : Settings} {path : String}
    {source : Source} {f : Fault} (h : (bytes parse settings path source).outcome = .error f) :
    f.isScanFault = true := by
  rw [bytes] at h
  cases hroot : (parse source).tag.hasError with
  | true =>
    obtain ⟨line, reason, hmalformed⟩ :=
      outcome_of_malformed parse settings path (Text.decoded source) hroot
    cases hmalformed.symm.trans h
    rfl
  | false =>
    rcases outcome_of_wellFormed parse settings path (Text.decoded source) hroot with
      ⟨methods, -, -, hcyclic⟩ | ⟨-, occurrences, hok⟩
    · cases hcyclic.symm.trans h
      rfl
    · cases hok.symm.trans h

namespace Command

/-! ## Keys in the order of their first uses -/

/-- Some keys are those of a list, each once, in the order in which they come first there. -/
structure FirstUses (all keys : List String) : Prop where
  /-- No key comes twice. -/
  once : keys.Nodup
  /-- They are the keys of the list. -/
  mem : ∀ k, k ∈ keys ↔ k ∈ all
  /-- A key comes before another one if its first use does. -/
  order : keys.Pairwise fun a b => all.idxOf a < all.idxOf b

/-- One more use adds its key at the end, unless that is there. -/
theorem FirstUses.insertNew {all keys : List String} (h : FirstUses all keys) (k : String) :
    FirstUses (all ++ [k]) (CallGraph.insertNew keys k) := by
  have hold : keys.Pairwise fun a b => (all ++ [k]).idxOf a < (all ++ [k]).idxOf b := by
    refine h.order.imp_of_mem ?_
    intro a b ha hb hlt
    rw [List.idxOf_append_of_mem ((h.mem a).mp ha), List.idxOf_append_of_mem ((h.mem b).mp hb)]
    exact hlt
  refine ⟨CallGraph.nodup_insertNew h.once, fun x => ?_, ?_⟩
  · rw [CallGraph.mem_insertNew, h.mem, List.mem_append, List.mem_singleton]
  · rw [CallGraph.insertNew]
    split
    · exact hold
    · rename_i hnew
      have hk : k ∉ all := fun hk => hnew (List.contains_iff_mem.mpr ((h.mem k).mpr hk))
      refine List.pairwise_append.mpr ⟨hold, List.pairwise_singleton .., ?_⟩
      intro a ha b hb
      obtain rfl := List.mem_singleton.mp hb
      have hmem : a ∈ all := (h.mem a).mp ha
      have hlt : all.idxOf a < all.length := List.idxOf_lt_length_of_mem hmem
      rw [List.idxOf_append_of_mem hmem, List.idxOf_append_of_notMem hk]
      omega

/-- There is one list of such keys only. -/
theorem FirstUses.unique {all keys keys' : List String} (h : FirstUses all keys)
    (h' : FirstUses all keys') : keys = keys' :=
  h.order.eq_of_mem_iff h'.order fun k => (h.mem k).trans (h'.mem k).symm

theorem firstUses_uniqueKeys (uses : List Occurrence) :
    FirstUses (uses.map (·.key)) (uniqueKeys uses) := by
  induction uses using List.reverseRecOn with
  | nil => exact ⟨List.nodup_nil, fun _ => Iff.rfl, .nil⟩
  | append_singleton uses o ih =>
    have hstep : uniqueKeys (uses ++ [o]) = CallGraph.insertNew (uniqueKeys uses) o.key := by
      rw [uniqueKeys, List.map_append, List.foldl_append]
      rfl
    rw [hstep, List.map_append]
    exact ih.insertNew o.key

/-! ## The files one after another -/

/-- The uses of keys in the files whose scans do not fail, one file after another. -/
def usesIn (outcomes : List (Except Fault (List Occurrence))) : List Occurrence :=
  (outcomes.filterMap fun
    | .ok uses => some uses
    | .error _ => none).flatten

/-- What the other scans fail for. -/
def faultsIn (outcomes : List (Except Fault (List Occurrence))) : List Fault :=
  outcomes.filterMap fun
    | .ok _ => none
    | .error f => some f

theorem faultsIn_eq_nil_iff {outcomes : List (Except Fault (List Occurrence))} :
    faultsIn outcomes = [] ↔ ¬ ∃ f, .error f ∈ outcomes := by
  rw [faultsIn, List.filterMap_eq_nil_iff]
  constructor
  · rintro h ⟨f, hf⟩
    cases h _ hf
  · intro h outcome houtcome
    cases outcome with
    | ok uses => rfl
    | error f => exact absurd ⟨f, houtcome⟩ h

/-- Scans that fail can be left out. -/
theorem usesIn_filter {α : Type} (outcome : α → Except Fault (List Occurrence)) (keep : α → Bool)
    (items : List α) (h : ∀ x ∈ items, keep x = false → ∃ f, outcome x = .error f) :
    usesIn ((items.filter keep).map outcome) = usesIn (items.map outcome) := by
  induction items with
  | nil => rfl
  | cons x items ih =>
    have hrest := ih fun y hy => h y (List.mem_cons_of_mem x hy)
    cases hkeep : keep x with
    | true =>
      rw [List.filter_cons_of_pos hkeep, List.map_cons, List.map_cons]
      cases hx : outcome x with
      | ok uses => exact congrArg (uses ++ ·) hrest
      | error f => exact hrest
    | false =>
      obtain ⟨f, hf⟩ := h x List.mem_cons_self hkeep
      rw [List.filter_cons_of_neg (by simp [hkeep]), List.map_cons, hf]
      exact hrest

namespace Progress

variable {t : Terminal} {parse : Parser} {files : Files} {settings : Settings}

/-- The progress after some scans: the uses of those that do not fail, and one error for each of the
others. -/
def after (t : Terminal) (so : Progress) (reports : List Report) : Progress :=
  let outcomes := reports.map (·.outcome)
  { occurrences := so.occurrences ++ usesIn outcomes
    failures := so.failures + (faultsIn outcomes).length
    errors := so.errors ++ (faultsIn outcomes).map fun f => errorText t f.message
    events := so.events ++ reports.flatMap (·.events) }

theorem after_nil (t : Terminal) (so : Progress) : so.after t [] = so := by
  simp [after, usesIn, faultsIn]

theorem after_cons (t : Terminal) (so : Progress) (report : Report) (reports : List Report) :
    so.after t (report :: reports) = (so.after t [report]).after t reports := by
  cases houtcome : report.outcome with
  | ok uses => simp [after, usesIn, faultsIn, houtcome, List.append_assoc]
  | error f =>
    simp [after, usesIn, faultsIn, houtcome, List.append_assoc, Nat.add_assoc, Nat.add_comm]

/-- One more scan that does not fail, or fails for reasons of its own, goes into the progress. -/
theorem add_eq (so : Progress) {report : Report}
    (h : ∀ f, report.outcome = .error f → f.isScanFault = true) :
    so.add t report = .ok (so.after t [report]) := by
  rw [add]
  cases houtcome : report.outcome with
  | ok uses => simp [after, usesIn, faultsIn, houtcome]
  | error f => simp [after, usesIn, faultsIn, houtcome, h f houtcome]

/-- Any other fault stops the command. -/
theorem add_eq_error (so : Progress) {report : Report} {f : Fault}
    (houtcome : report.outcome = .error f) (h : f.isScanFault = false) :
    so.add t report = .error { so with events := so.events ++ report.events } := by
  rw [add, houtcome]
  simp [h]

/-- Scans that fail for reasons of their own keep no other scan from the progress. -/
theorem addAll_eq (so : Progress) (paths : List Path)
    (h : ∀ p ∈ paths, ∀ f, (scanFile parse files settings p).outcome = .error f →
      f.isScanFault = true) :
    so.addAll t parse files settings paths =
      .ok (so.after t (paths.map (scanFile parse files settings))) := by
  induction paths generalizing so with
  | nil => rw [List.map_nil, after_nil]; rfl
  | cons p paths ih =>
    obtain ⟨hp, hpaths⟩ := List.forall_mem_cons.mp h
    have hstep := add_eq (t := t) so hp
    rw [List.map_cons, after_cons, ← ih _ hpaths, addAll, List.foldlM_cons, hstep]
    rfl

/-- A file that cannot be read stops the command, whatever comes before and after it. -/
theorem exists_addAll_eq_error (t : Terminal) (parse : Parser) (settings : Settings)
    (so : Progress) {paths : List Path} {p : Path} (hp : p ∈ paths)
    (hread : files.read? p = none) :
    ∃ stopped, so.addAll t parse files settings paths = .error stopped := by
  induction paths generalizing so with
  | nil => cases hp
  | cons q paths ih =>
    rw [addAll, List.foldlM_cons]
    cases hstep : so.add t (scanFile parse files settings q) with
    | error stopped => exact ⟨stopped, rfl⟩
    | ok next =>
      rcases List.mem_cons.mp hp with rfl | hp
      · have hfault :
            (scanFile parse files settings p).outcome = .error (.notFound p.toString) := by
          rw [scanFile, hread]
        cases hstep.symm.trans (add_eq_error so hfault rfl)
      · exact ih next hp

end Progress

/-! ## Reports -/

section Reports

variable (t : Terminal) (fits isEmoji : String → Prop) (r : Request)

/-- An output shows some uses of keys in a number of files in the way that a request asks for. -/
def Output.Shows (uses : List Occurrence) (number : Nat) : Output → Prop
  | .records shown => r.unique = false ∧ r.asData = true ∧
      shown = uses.map fun o =>
        [("key", .str o.key), ("raw_key", .str o.raw), ("path", .str o.path),
          ("line_num", .int o.line), ("line_pos", .int o.column), ("line", .str o.text),
          ("default", (o.default.map .str).getD .null)]
  | .table shown files => r.unique = false ∧ r.asData = false ∧ files = number ∧
      shown = uses.map fun o =>
        ⟨t.guarded o.key, t.guarded o.path ++ ":" ++ toString o.line, t.guarded o.text⟩
  | .keys shown => r.unique = true ∧ r.asData = true ∧ FirstUses (uses.map (·.key)) shown
  | .lines shown => r.unique = true ∧ r.asData = false ∧
      ∃ ks, FirstUses (uses.map (·.key)) ks ∧
        -- the keys are printed one by one, and where they stand for themselves and fit in a line,
        -- there is one line for each, which is the key
        shown = ks.flatMap (fun k => t.lines (t.guarded k)) ∧
        ((∀ k ∈ ks, Terminal.IsPlain isEmoji k ∧ fits k) → shown = ks)

/-- A line tells of a fault. -/
def TellsOf (line : String) (f : Fault) : Prop :=
  line = t.shown ("[bold red]Error:[/bold red] " ++ t.guarded f.message) ∧
    (Terminal.IsPlain isEmoji f.message → line = "Error: " ++ f.message)

/-- What a command reports of the scans of the collected files. -/
structure Reports (outcomes : List (Except Fault (List Occurrence))) (result : Result) : Prop where
  /-- It shows what the scans that do not fail find. -/
  output : outcomes ≠ [] →
    result.output.Shows t fits isEmoji r (usesIn outcomes) outcomes.length
  /-- There is one error for each scan that fails, in order. -/
  errors : outcomes ≠ [] → List.Forall₂ (TellsOf t isEmoji) result.errors (faultsIn outcomes)
  /-- Without files it shows nothing and says so. -/
  nothing : outcomes = [] → result.output = .lines [] ∧ result.errors = ["No Ruby files found."]
  /-- It fails without files, or if some scan fails. -/
  failed : (outcomes = [] ∨ ∃ f, .error f ∈ outcomes) → result.exit = 1
  /-- It succeeds in every other case. -/
  succeeded : ¬ (outcomes = [] ∨ ∃ f, .error f ∈ outcomes) → result.exit = 0

/-- What an output says of uses of keys, as records, as rows and as lines. The number of files in a
table is left out. -/
def Output.reported : Output → List Record × List Row × List String
  | .records rs => (rs, [], [])
  | .table rows _ => ([], rows, [])
  | .keys ks | .lines ks => ([], [], ks)

end Reports

section Scan

variable {t : Terminal} {fits isEmoji : String → Prop} {parse : Parser} {files : Files}
  {env : Environment} {r : Request} {settings : Settings}

theorem shows_outputOf (hterminal : t.Faithful fits isEmoji) (r : Request)
    (uses : List Occurrence) (number : Nat) :
    (outputOf t r uses number).Shows t fits isEmoji r uses number := by
  rw [outputOf]
  cases hunique : r.unique <;> cases hdata : r.asData
  · exact ⟨hunique, hdata, rfl, rfl⟩
  · exact ⟨hunique, hdata, rfl⟩
  · refine ⟨hunique, hdata, _, firstUses_uniqueKeys uses, rfl, fun hplain => ?_⟩
    rw [List.flatMap_congr fun k hk => hterminal.text k (hplain k hk).1 (hplain k hk).2]
    exact List.flatMap_singleton' _
  · exact ⟨hunique, hdata, firstUses_uniqueKeys uses⟩

theorem tellsOf_errorText (hterminal : t.Faithful fits isEmoji) (f : Fault) :
    TellsOf t isEmoji (errorText t f.message) f :=
  ⟨rfl, hterminal.error f.message⟩

/-- How the scans of the collected files end. -/
def outcomes (parse : Parser) (files : Files) (settings : Settings) (r : Request) :
    List (Except Fault (List Occurrence)) :=
  (files.collect (r.paths.map Path.ofString)).map fun p => (scanFile parse files settings p).outcome

/-- The scan of a file that can be read fails for reasons of its own only. -/
theorem isScanFault_of_scanFile {p : Path} {source : Source} {f : Fault}
    (hread : files.read? p = some source)
    (h : (scanFile parse files settings p).outcome = .error f) : f.isScanFault = true := by
  rw [scanFile, hread] at h
  exact Scan.isScanFault_of_bytes h

theorem scan_of_nil (hsettings : settingsOf env r = .ok settings)
    (h : outcomes parse files settings r = []) :
    scan t parse files env r =
      { exit := 1, errors := [t.shown ("[bold yellow]" ++ nothingFound ++ "[/bold yellow]")] } := by
  rw [scan, hsettings]
  simp only [List.map_eq_nil_iff.mp h]

/-- What comes of a scan if every collected file can be read. -/
theorem scan_of_ne_nil (hsettings : settingsOf env r = .ok settings)
    (hread : ∀ p ∈ files.collect (r.paths.map Path.ofString), ∃ source, files.read? p = some source)
    (h : outcomes parse files settings r ≠ []) :
    (scan t parse files env r).exit =
        (if (faultsIn (outcomes parse files settings r)).length = 0 then 0 else 1) ∧
      (scan t parse files env r).output =
        outputOf t r (usesIn (outcomes parse files settings r))
          (outcomes parse files settings r).length ∧
      (scan t parse files env r).errors =
        (faultsIn (outcomes parse files settings r)).map fun f => errorText t f.message := by
  have hfaults : ∀ p ∈ files.collect (r.paths.map Path.ofString), ∀ f,
      (scanFile parse files settings p).outcome = .error f → f.isScanFault = true := by
    intro p hp f hf
    obtain ⟨source, hsource⟩ := hread p hp
    exact isScanFault_of_scanFile hsource hf
  have hall := Progress.addAll_eq (t := t) {} _ hfaults
  rw [scan, hsettings]
  rw [outcomes] at h ⊢
  cases hcollected : files.collect (r.paths.map Path.ofString) with
  | nil => exact absurd (by rw [hcollected]; rfl) h
  | cons p paths =>
    rw [hcollected] at hall
    simp only [hall, Progress.after, List.map_map, List.length_map, Nat.zero_add, List.nil_append]
    exact ⟨rfl, rfl, rfl⟩

theorem reports_scan (hterminal : t.Faithful fits isEmoji)
    (hsettings : settingsOf env r = .ok settings)
    (hread : ∀ p ∈ files.collect (r.paths.map Path.ofString),
      ∃ source, files.read? p = some source) :
    Reports t fits isEmoji r (outcomes parse files settings r) (scan t parse files env r) := by
  by_cases hnil : outcomes parse files settings r = []
  · rw [scan_of_nil hsettings hnil]
    exact ⟨fun h => absurd hnil h, fun h => absurd hnil h,
      fun _ => ⟨rfl, congrArg (fun line => [line]) hterminal.notice⟩, fun _ => rfl,
      fun h => absurd (.inl hnil) h⟩
  · obtain ⟨hexit, houtput, herrors⟩ := scan_of_ne_nil (t := t) hsettings hread hnil
    refine ⟨fun _ => ?_, fun _ => ?_, fun h => absurd h hnil, fun h => ?_, fun h => ?_⟩
    · rw [houtput]
      exact shows_outputOf hterminal r _ _
    · rw [herrors, List.forall₂_map_left_iff, List.forall₂_same]
      exact fun f _ => tellsOf_errorText hterminal f
    · have hfaults : faultsIn (outcomes parse files settings r) ≠ [] := by
        rw [Ne, faultsIn_eq_nil_iff, not_not]
        exact h.resolve_left hnil
      rw [hexit, if_neg (by simpa using hfaults)]
    · have hfaults : faultsIn (outcomes parse files settings r) = [] :=
        faultsIn_eq_nil_iff.mpr fun hf => h (.inr hf)
      rw [hexit, if_pos (by simpa using hfaults)]

/-- A file that cannot be read stops the command before it prints what it has found. -/
theorem scan_of_unreadable (hsettings : settingsOf env r = .ok settings) {p : Path}
    (hp : p ∈ files.collect (r.paths.map Path.ofString)) (hread : files.read? p = none) :
    (scan t parse files env r).exit = 1 ∧ (scan t parse files env r).output = .lines [] := by
  obtain ⟨stopped, hstopped⟩ := Progress.exists_addAll_eq_error t parse settings {} hp hread
  rw [scan, hsettings]
  cases hcollected : files.collect (r.paths.map Path.ofString) with
  | nil => rw [hcollected] at hp; cases hp
  | cons q paths =>
    rw [hcollected] at hstopped
    simp only [hstopped, and_self]

/-- What is reported depends on the uses of keys in the files whose scans do not fail, and on
nothing else. -/
theorem reported_scan (hsettings : settingsOf env r = .ok settings)
    (hread : ∀ p ∈ files.collect (r.paths.map Path.ofString),
      ∃ source, files.read? p = some source) :
    (scan t parse files env r).output.reported =
      (outputOf t r (usesIn (outcomes parse files settings r)) 0).reported := by
  by_cases hnil : outcomes parse files settings r = []
  · rw [scan_of_nil hsettings hnil, hnil, outputOf]
    cases r.unique <;> cases r.asData <;> rfl
  · obtain ⟨-, houtput, -⟩ := scan_of_ne_nil (t := t) hsettings hread hnil
    rw [houtput, outputOf, outputOf]
    cases r.unique <;> cases r.asData <;> rfl

end Scan

/-- **Broken files stand apart.** What a command with valid settings reports on a faithful terminal,
whatever the files and the paths. -/
theorem broken_files_apart (t : Terminal) (fits isEmoji : String → Prop)
    (hterminal : t.Faithful fits isEmoji) (parse : Parser) (files : Files) (hproper : files.Proper)
    (env : Environment) (r : Request) (settings : Settings)
    (hsettings : settingsOf env r = .ok settings) :
    let collected := files.collect (r.paths.map Path.ofString)
    -- each collected file can be read, and its scan fails for reasons of its own only
    (∀ p ∈ collected, ∃ source, files.read? p = some source ∧
      (scanFile parse files settings p).outcome =
        (Scan.bytes parse settings p.toString source).outcome ∧
      ∀ f, (scanFile parse files settings p).outcome = .error f → f.isScanFault = true) ∧
    -- what is reported is what these scans give
    Reports t fits isEmoji r (outcomes parse files settings r) (scan t parse files env r) ∧
    -- and it is the same when some of the files whose scans fail are deleted
    ∀ (files' : Files) (paths : List String) (keep : Path → Bool),
      files'.collect (paths.map Path.ofString) = collected.filter keep →
      (∀ p ∈ collected, keep p = true → files'.read? p = files.read? p) →
      (∀ p ∈ collected, keep p = false →
        ∃ f, (scanFile parse files settings p).outcome = .error f) →
      (scan t parse files' env { r with paths := paths }).output.reported =
        (scan t parse files env r).output.reported := by
  intro collected
  have hread : ∀ p ∈ collected, ∃ source, files.read? p = some source :=
    fun p hp => Files.exists_read?_of_mem_collect hproper hp
  refine ⟨fun p hp => ?_, reports_scan hterminal hsettings hread, ?_⟩
  · obtain ⟨source, hsource⟩ := hread p hp
    refine ⟨source, hsource, ?_, fun f hf => isScanFault_of_scanFile hsource hf⟩
    rw [scanFile, hsource]
  · intro files' paths keep hcollected hsame hbroken
    have hread' : ∀ p ∈ files'.collect (paths.map Path.ofString),
        ∃ source, files'.read? p = some source := by
      rw [hcollected]
      intro p hp
      obtain ⟨hmem, hkeep⟩ := List.mem_filter.mp hp
      rw [hsame p hmem hkeep]
      exact hread p hmem
    have houtcomes : outcomes parse files' settings { r with paths := paths } =
        (collected.filter keep).map fun p => (scanFile parse files settings p).outcome := by
      rw [outcomes, hcollected]
      refine List.map_congr_left fun p hp => ?_
      obtain ⟨hmem, hkeep⟩ := List.mem_filter.mp hp
      rw [scanFile, scanFile, hsame p hmem hkeep]
    have hkept : (scan t parse files' env { r with paths := paths }).output.reported =
        (outputOf t r (usesIn (outcomes parse files' settings
          { r with paths := paths })) 0).reported :=
      reported_scan hsettings hread'
    rw [hkept, houtcomes, usesIn_filter _ keep _ hbroken, reported_scan hsettings hread]
    rfl

/-- A file that cannot be read as a program. -/
def strayText : String := "\n\n\n)\n"

/-- The tree of that file. -/
def strayRoot : Node :=
  let node := Node.ofSpan (Text.encoded strayText)
  (node (.other "program") [] 3 5
    [(node (.other "ERROR") [] 3 4
      [(node (.other ")") [] 3 4 []).marked false false false false]).marked true true false true]
    ).marked true false false true

/-- Files with one use each, with a broken one between them. -/
def mixedFiles : Files where
  here := ["home"]
  entries := [(["home", "app", "a.rb"], .file (Text.encoded "t('saved')")),
    (["home", "app", "b.rb"], .file (Text.encoded strayText)),
    (["home", "app", "c.rb"], .file (Text.encoded "t('closed')"))]

/-- The parser that knows these files. -/
def mixedParser : Parser :=
  Parses.parser [(Text.encoded "t('saved')", Scan.lookupAlone "t('saved')"),
    (Text.encoded strayText, strayRoot),
    (Text.encoded "t('closed')", Scan.lookupAlone "t('closed')")]

/-- What is asked for: the keys in the files that paths stand for, each once. -/
def mixedRequest (paths : List String) : Request := { paths, unique := true }

/-- What comes of it. -/
def mixedResult (paths : List String) : Result :=
  scan Console.terminal mixedParser mixedFiles [] (mixedRequest paths)

theorem broken_files_apart_mixed :
    Console.terminal.Faithful (fun _ => True) Console.IsEmoji ∧ mixedFiles.Proper ∧
      (mixedResult ["app"]).exit = 1 ∧
      (mixedResult ["app"]).output.reported.2.2 = ["saved", "closed"] ∧
      List.Forall₂ (TellsOf Console.terminal Console.IsEmoji) (mixedResult ["app"]).errors
        [.malformed (some "app/b.rb") (some 4) "syntax error"] ∧
      (mixedResult ["app/a.rb", "app/c.rb"]).exit = 0 ∧
      (mixedResult ["app/a.rb", "app/c.rb"]).output.reported =
        (mixedResult ["app"]).output.reported := by
  have hsettings : settingsOf [] (mixedRequest ["app"]) = .ok {} := by
    have hsome : (settingsOf [] (mixedRequest ["app"])).toOption = some {} := by decide +kernel
    cases hok : settingsOf [] (mixedRequest ["app"]) with
    | error fault =>
      rw [hok] at hsome
      cases hsome
    | ok settings =>
      rw [hok] at hsome
      exact congrArg Except.ok (Option.some.inj hsome)
  have hproper : mixedFiles.Proper := by decide
  obtain ⟨-, hreports, hdeleted⟩ := broken_files_apart Console.terminal _ _
    Console.faithful_terminal mixedParser mixedFiles hproper [] (mixedRequest ["app"]) {} hsettings
  have houtcomes : outcomes mixedParser mixedFiles {} (mixedRequest ["app"]) =
      [.ok [⟨"saved", "saved", "app/a.rb", 1, 1, "t('saved')", none⟩],
        .error (.malformed (some "app/b.rb") (some 4) "syntax error"),
        .ok [⟨"closed", "closed", "app/c.rb", 1, 1, "t('closed')", none⟩]] := by
    decide +kernel
  rw [houtcomes, ← mixedResult] at hreports
  have hbroken : ∀ p ∈ mixedFiles.collect ((mixedRequest ["app"]).paths.map Path.ofString),
      decide (p.name ≠ "b.rb") = false →
        ∃ f, (scanFile mixedParser mixedFiles {} p).outcome = .error f := by
    intro p hp hname
    have hnone : (scanFile mixedParser mixedFiles {} p).outcome.isOk = false := by
      revert p
      decide +kernel
    cases hf : (scanFile mixedParser mixedFiles {} p).outcome with
    | error f => exact ⟨f, rfl⟩
    | ok uses =>
      rw [hf] at hnone
      cases hnone
  refine ⟨Console.faithful_terminal, hproper, hreports.failed (.inr ⟨_, .tail _ (.head _)⟩), ?_,
    hreports.errors (List.cons_ne_nil _ _), by decide +kernel,
    hdeleted mixedFiles ["app/a.rb", "app/c.rb"] _ (by decide +kernel) (fun _ _ _ => rfl) hbroken⟩
  have hshows := hreports.output (List.cons_ne_nil _ _)
  generalize (mixedResult ["app"]).output = output at hshows ⊢
  cases output with
  | records rs => cases hshows.1
  | table rows number => cases hshows.1
  | keys ks => cases hshows.2.1
  | lines shown =>
    obtain ⟨-, -, ks, hks, -, hshown⟩ := hshows
    have hkeys : ks = ["saved", "closed"] := hks.unique (firstUses_uniqueKeys _)
    subst hkeys
    refine hshown fun k hk => ⟨?_, trivial⟩
    rcases List.mem_pair.mp hk with rfl | rfl
    · exact .of_chars (by decide) (by decide)
    · exact .of_chars (by decide) (by decide)

end Command

end LocaleKeys

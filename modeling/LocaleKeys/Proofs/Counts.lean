import LocaleKeys.Proofs.Numerals
import LocaleKeys.Proofs.ScopedKeys

/-!
# Proofs: counts are told by their value

The name of a record has one form for a count of one and another form for all other counts. Which
one a call asks for depends on the number that its count writes and not on how the number is
written.
-/

namespace LocaleKeys

open Ast

/-! ## Forms -/

theorem Ast.Node.optionValue?_of_writes {numeral : Node} {n : Nat} (hkind : numeral.kind = .integer)
    (hwrites : Text.Writes numeral.text n) : numeral.optionValue? = some (.integer n) := by
  rw [Node.optionValue?, hkind]
  simp only [Text.readInteger_of_writes hwrites]

namespace Key

theorem pluralForm_integer (n : Nat) :
    pluralForm (some (.integer n)) = if n = 1 then "one" else "other" := by
  rw [pluralForm]
  norm_cast

theorem pluralForm_eq_one_iff (n : Nat) : pluralForm (some (.integer n)) = "one" ↔ n = 1 := by
  rw [pluralForm_integer]
  by_cases hn : n = 1 <;> simp [hn]

theorem ofModel_eq (model : String) (count : Option OptionValue) :
    ofModel model count = "activerecord.models." ++ model ++ "." ++ pluralForm count := by
  have hword : join ["activerecord", "models"] = "activerecord.models" := by decide
  have hparts : ofModel model count =
      join (["activerecord", "models"] ++ ([model] ++ [pluralForm count])) := rfl
  rw [hparts, join_append (by simp) (by simp), join_append (by simp) (by simp), hword,
    join_singleton, join_singleton]
  simp only [← String.append_assoc]
  rfl

end Key

/-! ## Calls with a count -/

namespace Helper

/-- A call such as `Event.model_name.human(count: 2)`: it asks for the name of a record, and a count
is all that it is given. -/
structure Counts (settings : Settings) (call constant count : Node) : Prop where
  /-- The method looks a name up. -/
  method : ∃ m, call.child? .method = some m ∧ m.text ∈ settings.humanizeMethods
  /-- The receiver is a call without arguments that gives the name of a record. -/
  receiver : ∃ r, call.child? .receiver = some r ∧ r.kind = .call ∧
    r.child? .arguments = none ∧ r.child? .receiver = some constant ∧
    ∃ m, r.child? .method = some m ∧ m.text ∈ settings.modelNameMethods
  /-- The record is named by a constant. -/
  constant : constant.kind.isConstant = true
  /-- The count is the value of the only argument, an option. -/
  arguments : ∃ pair, Arguments.nodesOf call = [pair] ∧ pair.kind = .pair ∧
    Options.Names pair "count" ∧ pair.child? .value = some count

namespace Counts

variable {settings : Settings} {call constant count : Node}

theorem get?_count (h : Counts settings call constant count) :
    (Arguments.ofCall call).options.get? "count" = count.optionValue? := by
  obtain ⟨pair, hnodes, hkind, hname, hvalue⟩ := h.arguments
  have hpairs : Arguments.pairsOf false (Arguments.nodesOf call) = [pair] := by
    rw [hnodes, Arguments.pairsOf, if_pos hkind]
    rfl
  have hoptions : (Arguments.ofCall call).options = Options.ofPairs [pair] := by
    rw [← hpairs]
    rfl
  rw [hoptions]
  cases hcount : count.optionValue? with
  | some v => exact Options.get?_ofPairs_append_of_gives (.value hname hvalue hcount) []
  | none =>
    refine Options.get?_ofPairs_eq_none_iff.mpr (List.forall_mem_singleton.mpr fun hsets => ?_)
    exact hsets.2 count hvalue (Options.optionValue?_eq_none_iff.mp hcount)

/-- Such a call is a record helper and nothing else. -/
theorem ofCall_eq (h : Counts settings call constant count) :
    Site.ofCall settings call =
      [.helper ⟨.modelName, modelOf constant, count.optionValue?, call.line, call.column⟩] := by
  obtain ⟨m, hm, hmethod⟩ := h.method
  obtain ⟨r, hr, hkind, harguments, hreceiver, k, hk, hmodel⟩ := h.receiver
  have hconstant : r.kind.isConstant = false := by rw [hkind]; rfl
  have hlookup : Lookup.ofCall? settings call = none := by
    simp [Lookup.ofCall?, Lookup.formOf?, hm, hr, hconstant]
  have hnamed : namedModel? settings r = some constant := by
    simp [namedModel?, hkind, harguments, hk, hmodel, hreceiver, Option.filter, h.constant]
  have hhelper : Helper.ofCall? settings call =
      some ⟨.modelName, modelOf constant, count.optionValue?, call.line, call.column⟩ := by
    simp [Helper.ofCall?, hm, hr, hconstant, hmethod, hnamed, h.get?_count]
  rw [Site.ofCall, hlookup, hhelper]
  rfl

end Counts

end Helper

namespace Resolve

variable {settings : Settings} {d : Document} {index : Index} {p : Placed} {h : Helper}

theorem site_helper (hmode : settings.mode = .conventions) (hp : p.site = .helper h) :
    site settings d index p = .ok (h.verdict d) := by
  rw [site, hp, hmode]

end Resolve

/-- The uses that the record helpers of a file give are among the uses that a scan gives. -/
theorem Scan.mem_of_helper {parse : Parser} {settings : Settings} {path text : String} {root : Node}
    {occurrences : List Occurrence} (hmode : settings.mode = .conventions)
    (hok : (withTree parse settings path text root).outcome = .ok occurrences) {p : Placed}
    (hp : p ∈ (Index.ofTree settings root).sites) {h : Helper} (hsite : p.site = .helper h)
    {o : Occurrence} (ho : o ∈ (h.verdict (.ofText path text)).occurrences) : o ∈ occurrences := by
  rw [withTree_eq_document (hasError_of_ok hok)] at hok
  have huses :=
    document_outcome_of_not_stopped parse _ _ root (not_stopped_of_ok parse _ _ root hok)
  rw [map_snd_traced, Resolve.verdicts, List.flatMap_map] at huses
  obtain rfl := Except.ok.inj (hok.symm.trans huses)
  refine List.mem_append_right _ (List.mem_flatMap.mpr ⟨p, hp, ?_⟩)
  rw [Resolve.verdictAt, Resolve.site_helper hmode hsite]
  exact ho

namespace Helper

/-- **Counts are told by their value.** However a number is written, it is read as that number, its
form is that of one exactly if it is one, and a call with this count uses the key for one exactly
then, wherever it stands. -/
theorem counts_by_value (n : Nat) (numeral : Node) (hkind : numeral.kind = .integer)
    (hwrites : Text.Writes numeral.text n) :
    numeral.optionValue? = some (.integer n) ∧
    (Key.pluralForm numeral.optionValue? = "one" ↔ n = 1) ∧
    ∀ settings call constant, settings.mode = .conventions →
      Counts settings call constant numeral →
      let name := "activerecord.models." ++ modelOf constant
      let key := if n = 1 then name ++ ".one" else name ++ ".other"
      (key = name ++ ".one" ↔ n = 1) ∧
      (∀ d index here caller,
        (Site.ofCall settings call).map
          (fun s => Resolve.keysAt settings d index ⟨here, caller, s⟩) = [.ok [key]]) ∧
      ∀ parse path text root occurrences,
        (Scan.withTree parse settings path text root).outcome = .ok occurrences →
        ∀ p ∈ (Index.ofTree settings root).sites, p.site ∈ Site.ofCall settings call →
          ∃ o ∈ occurrences, o.key = key ∧ o.line = call.line ∧ o.column = call.column := by
  have hvalue := Node.optionValue?_of_writes hkind hwrites
  refine ⟨hvalue, by rw [hvalue]; exact Key.pluralForm_eq_one_iff n, ?_⟩
  intro settings call constant hmode hcounts name key
  have hkey : Key.ofModel (modelOf constant) numeral.optionValue? = key := by
    rw [hvalue, Key.ofModel_eq, Key.pluralForm_integer]
    by_cases hn : n = 1 <;> simp [key, name, hn, String.append_assoc]
  refine ⟨?_, fun d index here caller => ?_, ?_⟩
  · by_cases hn : n = 1 <;> simp [key, hn]
  · rw [hcounts.ofCall_eq, List.map_singleton, Resolve.keysAt, Resolve.site_helper hmode rfl,
      ← hkey]
    rfl
  · intro parse path text root occurrences hok p hp hsite
    rw [hcounts.ofCall_eq] at hsite
    exact ⟨_, Scan.mem_of_helper hmode hok hp (List.mem_singleton.mp hsite)
      (List.mem_singleton_self _), hkey, rfl, rfl⟩

/-- An integer that is the value of an option. -/
def integerValue (text : String) : Node :=
  Node.withRole .value ⟨{ kind := .integer, text }, []⟩

/-- The constant `LineItem`, as a receiver. -/
def lineItem : Node := ⟨{ kind := .constant, roles := [.receiver], text := "LineItem" }, []⟩

/-- The call `LineItem.model_name.human(count: ...)`. -/
def countedItems (count : String) : Node :=
  ⟨{ kind := .call, line := 3 },
    [⟨{ kind := .call, roles := [.receiver], line := 3 },
        [lineItem, ⟨{ kind := .identifier, roles := [.method], text := "model_name" }, []⟩]⟩,
      ⟨{ kind := .identifier, roles := [.method], text := "human" }, []⟩,
      ⟨{ kind := .other "argument_list", roles := [.arguments] },
        [Scan.optionOf "count" ⟨{ kind := .integer, text := count }, []⟩]⟩]⟩

/-- A scan of a file with such a call. -/
def countedScan (count : String) : Report :=
  Scan.withTree (Parses.parser []) {} "items.rb"
    ("\n\nLineItem.model_name.human(count: " ++ count ++ ")")
    ⟨{ kind := .other "program" }, [countedItems count]⟩

theorem counts_by_value_marked :
    Text.Writes "0_X0_0_1" 1 ∧ Text.Writes "_0b1_0" 2 ∧
    (integerValue "0_X0_0_1").optionValue? = some (.integer 1) ∧
    (∃ occurrences, (countedScan "0_X0_0_1").outcome = .ok occurrences ∧
      ∃ o ∈ occurrences, o.key = "activerecord.models.line_item.one" ∧ o.line = 3) ∧
    (Site.ofCall {} (countedItems "_0b1_0")).map
      (fun s => Resolve.keysAt {} (.ofText "items.rb" "") ⟨[], []⟩ ⟨0, none, s⟩) =
        [.ok ["activerecord.models.line_item.other"]] := by
  have hone : Text.Writes "0_X0_0_1" 1 := by
    have hmarked : "0_X0_0_1".toList.filter (· ≠ '_') =
        '0' :: 'X' :: (List.replicate 2 '0' ++ ['1']) := by
      decide
    rw [Text.Writes, hmarked]
    exact .marked (by decide : ('X', 16) ∈ Text.baseMarks) 2 (by decide)
  have htwo : Text.Writes "_0b1_0" 2 := by
    have hmarked : "_0b1_0".toList.filter (· ≠ '_') =
        '0' :: 'b' :: (List.replicate 0 '0' ++ ['1', '0']) := by
      decide
    rw [Text.Writes, hmarked]
    exact .marked (by decide : ('b', 2) ∈ Text.baseMarks) 0 (by decide)
  have hcounts : ∀ text, Counts {} (countedItems text) lineItem (integerValue text) := fun text =>
    { method := ⟨_, rfl, by decide⟩
      receiver := ⟨_, rfl, rfl, rfl, rfl, _, rfl, by decide⟩
      constant := rfl
      arguments := ⟨_, rfl, rfl, ⟨_, rfl, rfl⟩, rfl⟩ }
  have hmodel : modelOf lineItem = "line_item" := by decide +kernel
  obtain ⟨hvalue, -, hcalls⟩ := counts_by_value 1 (integerValue "0_X0_0_1") rfl hone
  obtain ⟨-, -, hothers⟩ := counts_by_value 2 (integerValue "_0b1_0") rfl htwo
  refine ⟨hone, htwo, hvalue, ?_, ?_⟩
  · obtain ⟨-, -, hscan⟩ := hcalls {} _ lineItem rfl (hcounts "0_X0_0_1")
    have hlength : (countedScan "0_X0_0_1").outcome.map List.length = .ok 1 := by decide +kernel
    cases hok : (countedScan "0_X0_0_1").outcome with
    | error fault =>
      rw [hok] at hlength
      cases hlength
    | ok occurrences =>
      obtain ⟨o, ho, hkey, hline, -⟩ := hscan _ _ _ _ _ hok
        ⟨0, none, .helper ⟨.modelName, "line_item", some (.integer 1), 3, 1⟩⟩ (by decide +kernel)
        (by decide +kernel)
      rw [hmodel] at hkey
      exact ⟨occurrences, rfl, o, ho, hkey.trans (by decide), hline⟩
  · obtain ⟨-, hkeys, -⟩ := hothers {} _ lineItem rfl (hcounts "_0b1_0")
    rw [hmodel] at hkeys
    exact (hkeys _ _ _ _).trans (by decide)

end Helper

end LocaleKeys

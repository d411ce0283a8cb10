import LocaleKeys.Proofs.KeywordOptions
import LocaleKeys.Proofs.QualifiedKeys

/-!
# Proofs: keys in scopes

Only the segments that are not empty count in a key, and segments that are joined are a segment
again. So it makes no difference whether the last segments of a scope are given with the scope or
with the key, or whether a scope is a list of segments or one text with dots in it.
-/

namespace LocaleKeys.Key

variable {a b : List String} {key : String} {options : Options}

/-! ## Joining in parts -/

/-- The segments that are not empty, with dots between them. -/
def joined (segments : List String) : String := join (segments.filter (· ≠ ""))

theorem join_ne_empty (ha : a ≠ []) (hempty : ∀ s ∈ a, s ≠ "") : join a ≠ "" := by
  obtain ⟨s, rest, rfl⟩ := List.exists_cons_of_ne_nil ha
  have hs : s ≠ "" := hempty s List.mem_cons_self
  by_cases hrest : rest = []
  · subst hrest
    rwa [join_singleton]
  · rw [join_cons hrest]
    simp [hs]

theorem joined_eq_empty_iff : joined a = "" ↔ a.filter (· ≠ "") = [] := by
  constructor
  · intro hjoined
    by_contra hne
    refine join_ne_empty hne (fun s hs => ?_) hjoined
    simpa using (List.mem_filter.mp hs).2
  · intro hnil
    rw [joined, hnil, join_nil]

/-- An empty segment does not count. -/
theorem joined_empty (a b : List String) : joined (a ++ "" :: b) = joined (a ++ b) := by
  simp [joined]

theorem joined_singleton (s : String) : joined [s] = s := by
  by_cases hs : s = ""
  · subst hs
    rfl
  · simp [joined, hs]

theorem joined_pair {s t : String} (hs : s ≠ "") (ht : t ≠ "") : joined [s, t] = s ++ "." ++ t := by
  have hboth : [s, t].filter (· ≠ "") = [s, t] := by simp [hs, ht]
  rw [joined, hboth, join_cons (List.cons_ne_nil t []), join_singleton]

/-- Segments may be joined part by part. -/
theorem joined_append (a b : List String) : joined (a ++ b) = joined [joined a, joined b] := by
  have hparts : joined (a ++ b) = join (a.filter (· ≠ "") ++ b.filter (· ≠ "")) := by
    rw [joined, List.filter_append]
  -- a part in which nothing counts leaves the other one as it is
  by_cases ha : a.filter (· ≠ "") = []
  · have hempty : joined a = "" := joined_eq_empty_iff.mpr ha
    have hpair : joined [joined a, joined b] = joined [joined b] := by
      rw [hempty]
      exact joined_empty [] [joined b]
    rw [hparts, hpair, joined_singleton, ha, List.nil_append, joined]
  · by_cases hb : b.filter (· ≠ "") = []
    · have hempty : joined b = "" := joined_eq_empty_iff.mpr hb
      have hpair : joined [joined a, joined b] = joined [joined a] := by
        rw [hempty]
        exact joined_empty [joined a] []
      rw [hparts, hpair, joined_singleton, hb, List.append_nil, joined]
    · rw [hparts, join_append ha hb, joined_pair (mt joined_eq_empty_iff.mp ha)
        (mt joined_eq_empty_iff.mp hb), joined, joined]

theorem joined_append_joined (a b : List String) : joined (a ++ [joined b]) = joined (a ++ b) := by
  rw [joined_append, joined_singleton, ← joined_append]

theorem joined_joined_append (a b : List String) : joined ([joined a] ++ b) = joined (a ++ b) := by
  rw [joined_append, joined_singleton, ← joined_append]

/-! ## Dots at the start -/

/-- Nothing but dots is lost at the start of a key. -/
theorem exists_dots (s : String) :
    ∃ dots, s = String.ofList (List.replicate dots '.') ++ stripDots s := by
  have hdots : ∀ c ∈ s.toList.takeWhile (· = '.'), c = '.' :=
    fun c hc => by simpa using List.mem_takeWhile_imp hc
  refine ⟨(s.toList.takeWhile (· = '.')).length, ?_⟩
  rw [← List.eq_replicate_of_mem hdots, stripDots, ← String.ofList_append,
    List.takeWhile_append_dropWhile, String.ofList_toList]

theorem head?_stripDots (s : String) : (stripDots s).toList.head? ≠ some '.' := by
  by_cases hs : stripDots s = ""
  · rw [hs]
    decide
  · simpa [isRelative] using (isQualified_stripDots hs).2

/-! ## Scopes -/

theorem absolute?_list (h : options.get? "scope" = some (.list a)) :
    absolute? key options = some (stripDots (joined (a ++ [key]))) := by
  rw [absolute?, h]
  rfl

theorem absolute?_literal {scope : String} (h : options.get? "scope" = some (.literal scope)) :
    absolute? key options = some (stripDots (joined ([scope] ++ [key]))) := by
  rw [absolute?, h]
  rfl

theorem absolute?_of_none (h : options.get? "scope" = none) :
    absolute? key options = some (stripDots (joined [key])) := by
  rw [absolute?, h]
  rfl

theorem absolute?_eq_none_iff : absolute? key options = none ↔
    ∃ v, options.get? "scope" = some v ∧ (∀ s, v ≠ .literal s) ∧ ∀ ss, v ≠ .list ss := by
  rw [absolute?, Option.map_eq_none_iff]
  rcases options.get? "scope" with _ | v
  · simp [scopeSegments?]
  · cases v <;> simp [scopeSegments?]

/-- **Scopes are joined part by part.** A key has a key in full unless it has a scope that is
neither a text nor a list of texts. The key in full consists of the segments that are not empty and
has no dot at its start. The last segments of a scope may as well stand in the key, and a list of
segments may as well be one text. -/
theorem scopes_joined_in_parts (key : String) (options : Options) :
    let within := fun scope => options.insert "scope" scope
    (absolute? key options = none ↔
      ∃ v, options.get? "scope" = some v ∧ (∀ s, v ≠ .literal s) ∧ ∀ ss, v ≠ .list ss) ∧
    (∀ full, absolute? key options = some full → full.toList.head? ≠ some '.') ∧
    (options.get? "scope" = none → absolute? key options = absolute? key (within (.list []))) ∧
    (∀ a, ∃ dots full, absolute? key (within (.list a)) = some full ∧
      joined (a ++ [key]) = String.ofList (List.replicate dots '.') ++ full) ∧
    (∀ a b, absolute? key (within (.list (a ++ b))) =
      absolute? (joined (b ++ [key])) (within (.list a))) ∧
    ∀ a, absolute? key (within (.list a)) = absolute? key (within (.literal (joined a))) := by
  intro within
  have hwithin : ∀ scope, (within scope).get? "scope" = some scope :=
    fun scope => (Options.get?_insert options "scope" "scope" scope).trans (if_pos rfl)
  refine ⟨absolute?_eq_none_iff, fun full hfull => ?_, fun hnone => ?_, fun a => ?_, fun a b => ?_,
    fun a => ?_⟩
  · obtain ⟨scope, -, rfl⟩ := Option.map_eq_some_iff.mp hfull
    exact head?_stripDots _
  · rw [absolute?_of_none hnone, absolute?_list (hwithin _), List.nil_append]
  · obtain ⟨dots, hdots⟩ := exists_dots (joined (a ++ [key]))
    exact ⟨dots, _, absolute?_list (hwithin _), hdots⟩
  · rw [absolute?_list (hwithin _), absolute?_list (hwithin _), joined_append_joined,
      List.append_assoc]
  · rw [absolute?_list (hwithin _), absolute?_literal (hwithin _), joined_joined_append]

theorem scopes_joined_in_parts_dots :
    absolute? "..title" [] = some "title" ∧ "title".toList.head? ≠ some '.' ∧
    absolute? "..title" [] = absolute? "..title" [("scope", .list [])] ∧
    absolute? "..title" [("scope", .list ["", ".", "admin", ""])] = some "admin...title" ∧
    absolute? "admin...title" [("scope", .list ["", "."])] = some "admin...title" ∧
    absolute? "..title" [("scope", .literal "..admin")] = some "admin...title" := by
  have hplain : absolute? "..title" [] = some "title" := by decide
  have hlist : absolute? "..title" [("scope", .list ["", ".", "admin", ""])] =
      some "admin...title" := by
    decide
  have hkey : joined (["admin", ""] ++ ["..title"]) = "admin...title" := by decide
  have hscope : joined ["", ".", "admin", ""] = "..admin" := by decide
  obtain ⟨-, hdot, hnone, -, hkeys, htexts⟩ := scopes_joined_in_parts "..title" []
  refine ⟨hplain, hdot _ hplain, hnone rfl, hlist, ?_, ?_⟩
  · exact hkey ▸ (hkeys ["", "."] ["admin", ""]).symm.trans hlist
  · exact hscope ▸ (htexts ["", ".", "admin", ""]).symm.trans hlist

end LocaleKeys.Key

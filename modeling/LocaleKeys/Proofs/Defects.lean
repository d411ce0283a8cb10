import LocaleKeys.Ast.Defect
import LocaleKeys.Proofs.ByteLines

/-!
# Proofs: the first defect

The search for a defect keeps the nodes that wait on a stack and leaves out what lies below a node
that is not marked. Where everything around a defect is marked, it finds what a search through all
nodes finds that looks at each node before those below it: the first defect of the tree. This is
the one whose line the fault of the tree names.
-/

namespace LocaleKeys.Ast.Node

/-! ## All nodes -/

mutual

/-- A node and all nodes below it, tokens included, each before those below it. -/
def everyNode : Node → List Node
  | ⟨t, cs⟩ => ⟨t, cs⟩ :: everyNodeOf cs

/-- Some nodes and all nodes below them. -/
def everyNodeOf : List Node → List Node
  | [] => []
  | c :: cs => c.everyNode ++ everyNodeOf cs

end

theorem everyNode_eq (n : Node) : n.everyNode = n :: everyNodeOf n.children := by
  cases n
  rfl

theorem everyNodeOf_append (xs ys : List Node) :
    everyNodeOf (xs ++ ys) = everyNodeOf xs ++ everyNodeOf ys := by
  induction xs with
  | nil => rfl
  | cons x xs ih => rw [List.cons_append, everyNodeOf, ih, everyNodeOf, List.append_assoc]

theorem mem_everyNodeOf {m : Node} {cs : List Node} :
    m ∈ everyNodeOf cs ↔ ∃ c ∈ cs, m ∈ c.everyNode := by
  induction cs with
  | nil => simp [everyNodeOf]
  | cons c cs ih => simp [everyNodeOf, ih]

theorem mem_everyNode_iff {m n : Node} : m ∈ n.everyNode ↔ n.Holds m := by
  induction n using induct with
  | h t cs ih =>
    rw [everyNode, List.mem_cons, mem_everyNodeOf, holds_iff]
    refine or_congr Iff.rfl (exists_congr fun c => ?_)
    exact and_congr_right fun hc => ih c hc

/-! ## The search -/

/-- Every node with a defect below it is marked. -/
def DefectsMarked (root : Node) : Prop :=
  ∀ n, root.Holds n → (∃ c ∈ n.children, ∃ d, c.Holds d ∧ d.isDefect = true) →
    n.tag.hasError = true

theorem defectsMarked_iff {root : Node} :
    root.DefectsMarked ↔ root.everywhere (fun n =>
      n.tag.hasError || !(everyNodeOf n.children).any isDefect) = true := by
  rw [everywhere_iff]
  refine forall_congr' fun n => imp_congr_right fun _ => ?_
  have hany : (everyNodeOf n.children).any isDefect = true ↔
      ∃ c ∈ n.children, ∃ d, c.Holds d ∧ d.isDefect = true := by
    simp only [List.any_eq_true, mem_everyNodeOf, mem_everyNode_iff]
    exact ⟨fun ⟨d, ⟨c, hc, hd⟩, hdefect⟩ => ⟨c, hc, d, hd, hdefect⟩,
      fun ⟨c, hc, d, hd, hdefect⟩ => ⟨d, ⟨c, hc, hd⟩, hdefect⟩⟩
  rw [← hany, Bool.or_eq_true, Bool.not_eq_true', ← Bool.not_eq_true]
  tauto

instance (root : Node) : Decidable root.DefectsMarked :=
  decidable_of_iff _ defectsMarked_iff.symm

theorem DefectsMarked.child {n c : Node} (h : n.DefectsMarked) (hc : c ∈ n.children) :
    c.DefectsMarked := by
  obtain ⟨t, cs⟩ := n
  exact fun m hm => h m (Holds.of_child hc hm)

/-- There is no defect below a node that is not marked. -/
theorem DefectsMarked.find?_everyNodeOf_children {n : Node} (h : n.DefectsMarked)
    (hn : n.tag.hasError = false) : (everyNodeOf n.children).find? isDefect = none := by
  rw [List.find?_eq_none]
  intro d hd hdefect
  obtain ⟨c, hc, hcd⟩ := mem_everyNodeOf.mp hd
  rw [h n (Holds.refl n) ⟨c, hc, d, mem_everyNode_iff.mp hcd, hdefect⟩] at hn
  cases hn

/-- The nodes on a stack and below them, in the order in which they are looked at. -/
def everyNodeOn (stack : Array Node) : List Node :=
  everyNodeOf stack.toList.reverse

theorem everyNodeOn_of_back? {stack : Array Node} {n : Node} (h : stack.back? = some n) :
    everyNodeOn stack = n :: everyNodeOf n.children ++ everyNodeOn stack.pop := by
  rw [everyNodeOn, toList_of_back? h, List.reverse_concat, everyNodeOf, everyNode_eq]
  rfl

theorem everyNodeOn_append_reverse (stack : Array Node) (cs : List Node) :
    everyNodeOn (stack ++ cs.reverse) = everyNodeOf cs ++ everyNodeOn stack := by
  rw [everyNodeOn, Array.toList_appendList, List.reverse_append, List.reverse_reverse,
    everyNodeOf_append]
  rfl

/-- The search finds the first defect at the nodes on its stack and below them. -/
theorem firstDefectOn?_eq (stack : Array Node) (h : ∀ n ∈ stack.toList, n.DefectsMarked) :
    firstDefectOn? stack = (everyNodeOn stack).find? isDefect := by
  fun_induction firstDefectOn? stack with
  | case1 stack hnone =>
    obtain rfl : stack = #[] := by simpa using hnone
    rfl
  | case2 stack n htop hdefect =>
    rw [everyNodeOn_of_back? htop, List.cons_append, List.find?_cons_of_pos hdefect]
  | case3 stack n htop hdefect hmarked ih =>
    -- the children take the place of the node, the first of them on top
    rw [everyNodeOn_of_back? htop, List.cons_append, List.find?_cons_of_neg hdefect,
      ← everyNodeOn_append_reverse]
    rw [toList_of_back? htop] at h
    refine ih fun m hm => ?_
    rw [Array.toList_appendList, List.mem_append, List.mem_reverse] at hm
    rcases hm with hm | hm
    · exact h m (List.mem_append_left _ hm)
    · exact (h n (by simp)).child hm
  | case4 stack n htop hdefect hmarked ih =>
    rw [toList_of_back? htop] at h
    have hbelow := (h n (by simp)).find?_everyNodeOf_children (by simpa using hmarked)
    rw [everyNodeOn_of_back? htop, List.cons_append, List.find?_cons_of_neg hdefect,
      List.find?_append, hbelow, Option.none_or]
    exact ih fun m hm => h m (List.mem_append_left _ hm)

theorem firstDefect?_eq {root : Node} (h : root.DefectsMarked) :
    root.firstDefect? = root.everyNode.find? isDefect := by
  have hon : everyNodeOn #[root] = root.everyNode := List.append_nil _
  rw [firstDefect?, firstDefectOn?_eq #[root] (by simpa using h), hon]

/-! ## The fault -/

/-- How a defect is told says that something is missing exactly if that is the defect. -/
theorem defectReason_missing_iff {d : Node} :
    (∃ what, defectReason (some d) = "syntax error, missing '" ++ what ++ "'") ↔
      d.tag.isMissing = true := by
  rw [defectReason]
  split
  · rename_i hmissing
    exact iff_of_true ⟨_, rfl⟩ hmissing
  · rename_i hmissing
    refine iff_of_false ?_ hmissing
    rintro ⟨what, h⟩
    have hlength := congrArg String.length h
    simp only [String.length_append] at hlength
    have : "syntax error".length = 12 := by decide
    have : "syntax error, missing '".length = 23 := by decide
    omega

/-- The line of a node is one more than the number of line feeds before it. -/
theorem line_eq_of_placeAt {source : Source} {n : Node}
    (h : (source.placeAt n.tag.start).1 = n.line) :
    n.line = 1 + (source.take n.tag.start).count Source.lineFeed := by
  rw [← h, Source.placeAt, Source.placeFrom_fst]

/-- **The first defect.** In a tree in which everything around a defect is marked, the search on a
stack finds the first defect in the order in which each node comes before those below it, and the
fault of the tree names its line and tells whether something is missing there. -/
theorem first_defect_exact (path : Option String) (root : Node) (hmarked : root.DefectsMarked) :
    -- it finds what a search through all nodes finds
    root.firstDefect? = root.everyNode.find? isDefect ∧
    -- which is a defect with no other one before it
    (∀ d, root.firstDefect? = some d ↔ d.isDefect = true ∧ ∃ before after,
      root.everyNode = before ++ d :: after ∧ ∀ n ∈ before, n.isDefect = false) ∧
    (root.firstDefect? = none ↔ ∀ n, root.Holds n → n.isDefect = false) ∧
    -- the fault has the line of this defect, that is its row counted from one
    (∀ d, root.tag.hasError = true → root.firstDefect? = some d → ∃ reason,
      root.fault? path = some (.malformed path (some (d.line : Int)) reason) ∧
      (∀ source : Source, (source.placeAt d.tag.start).1 = d.line →
        d.line = 1 + (source.take d.tag.start).count Source.lineFeed) ∧
      -- and the wording for what is missing exactly if this defect is
      (reason =
        if d.tag.isMissing then "syntax error, missing '" ++ d.kind.name ++ "'"
        else "syntax error") ∧
      ((∃ what, reason = "syntax error, missing '" ++ what ++ "'") ↔ d.tag.isMissing = true)) ∧
    -- without a defect it has neither, and a tree that is not marked has no fault
    (root.tag.hasError = true → root.firstDefect? = none →
      root.fault? path = some (.malformed path none "syntax error")) ∧
    (root.tag.hasError = false → root.fault? path = none) := by
  have hsearch := firstDefect?_eq hmarked
  refine ⟨hsearch, fun d => ?_, ?_, fun d hroot hd => ?_, fun hroot hnone => ?_, fun hroot => ?_⟩
  · rw [hsearch, List.find?_eq_some_iff_append]
    simp only [Bool.not_eq_true']
  · rw [hsearch, List.find?_eq_none]
    simp only [mem_everyNode_iff, Bool.not_eq_true]
  · have hfault : root.fault? path =
        some (.malformed path (some (d.line : Int)) (defectReason (some d))) := by
      rw [fault?, if_pos hroot, hd]
      rfl
    exact ⟨_, hfault, fun source => line_eq_of_placeAt, rfl, defectReason_missing_iff⟩
  · rw [fault?, if_pos hroot, hnone]
    rfl
  · rw [fault?, hroot]
    rfl

/-- A sum in parentheses on the second line, of which the second number is missing. So is the
closing parenthesis, and what follows cannot be read. -/
def unclosedSum : Node :=
  ⟨{ kind := .other "program", hasError := true },
    [⟨{ kind := .identifier, text := "a" }, []⟩,
      ⟨{ kind := .other "parenthesized_statements", start := 2, line := 2, hasError := true },
        [⟨{ kind := .other "(", start := 2, line := 2, named := false }, []⟩,
          ⟨{ kind := .other "binary", start := 3, line := 2, hasError := true },
            [⟨{ kind := .integer, start := 3, line := 2, text := "1" }, []⟩,
              ⟨{ kind := .other "+", start := 5, line := 2, named := false }, []⟩,
              ⟨{ kind := .identifier, start := 6, line := 2, isMissing := true }, []⟩]⟩,
          ⟨{ kind := .other ")", start := 6, line := 2, named := false, isMissing := true }, []⟩]⟩,
      ⟨{ kind := .other "ERROR", start := 7, line := 3, isError := true, hasError := true }, []⟩]⟩

theorem first_defect_exact_unclosed :
    let source : Source := Text.encoded "a\n(1 +\n]"
    unclosedSum.DefectsMarked ∧
    unclosedSum.everywhere (fun n => (source.placeAt n.tag.start).1 = n.line) = true ∧
    unclosedSum.fault? (some "a.rb") =
      some (.malformed (some "a.rb") (some 2) "syntax error, missing 'identifier'") := by
  intro source
  have hmarked : unclosedSum.DefectsMarked := by decide
  obtain ⟨hsearch, -, -, hfault, -, -⟩ := first_defect_exact (some "a.rb") unclosedSum hmarked
  obtain ⟨reason, hreason, -, hwording, -⟩ := hfault _ rfl (hsearch.trans rfl)
  refine ⟨hmarked, by decide +kernel, hreason.trans ?_⟩
  rw [hwording]
  decide +kernel

end LocaleKeys.Ast.Node

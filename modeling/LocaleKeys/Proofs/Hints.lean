import LocaleKeys.Scan
import Mathlib.Data.List.Basic

/-!
# Proofs: where hints belong

The expression of a comment is searched on a stack, and its lookups come out in document order.
Hints are collected line by line and wait for a line of code. In the end every hint stands at one
line that can be told from the lines alone: the first line of code after its own, or else the last
line of code, or else its own. So each comment has verdicts of its own, and the uses that the
comments of a file declare are those of the verdicts, in order.
-/

namespace LocaleKeys.Hint

open Ast

/-! ## The lookups of an expression -/

theorem preorderAll_eq (cs : List Node) :
    Node.preorderAll cs = (cs.filter Node.isNamed).flatMap Node.preorder := by
  induction cs with
  | nil => rw [Node.preorderAll]; rfl
  | cons c cs ih =>
    rw [Node.preorderAll, ih]
    cases hc : c.isNamed with
    | true => rw [if_pos rfl, List.filter_cons_of_pos hc, List.flatMap_cons]
    | false => rw [if_neg Bool.false_ne_true, List.filter_cons_of_neg (by simp [hc])]; rfl

theorem preorder_eq_cons (n : Node) : n.preorder = n :: n.named.flatMap Node.preorder := by
  obtain ⟨t, cs⟩ := n
  rw [Node.preorder, preorderAll_eq]
  rfl

/-- The nodes that a search has still to look at, in the order in which it does. -/
def nodesOn (stack : Array Node) : List Node :=
  stack.toList.reverse.flatMap Node.preorder

/-- A step of the search looks at the next node and leaves the others in their order: the nodes
below come first, since the first of them lies on top. -/
theorem nodesOn_of_back? {stack : Array Node} {n : Node} (h : stack.back? = some n) :
    nodesOn stack = n :: nodesOn (stack.pop ++ n.named.reverse) := by
  rw [nodesOn, nodesOn, Node.toList_of_back? h, List.reverse_concat, List.flatMap_cons,
    preorder_eq_cons, Array.toList_appendList, List.reverse_append, List.reverse_reverse,
    List.flatMap_append, List.cons_append]

/-- The search finds the lookups among the nodes on its stack and below them, in order. -/
theorem toList_lookupsOn (settings : Settings) (stack : Array Node) (found : Array Lookup) :
    (lookupsOn settings stack found).toList =
      found.toList ++ (nodesOn stack).filterMap (lookup? settings) := by
  fun_induction lookupsOn settings stack found with
  | case1 stack found hnone =>
    obtain rfl : stack = #[] := by simpa using hnone
    exact (List.append_nil _).symm
  | case2 stack found n htop next l hl ih =>
    rw [ih, nodesOn_of_back? htop, List.filterMap_cons_some hl, Array.toList_push,
      List.append_assoc]
    rfl
  | case3 stack found n htop next hnone ih =>
    rw [ih, nodesOn_of_back? htop, List.filterMap_cons_none hnone]

/-- The lookups in an expression are those of its calls, each before the ones inside it. -/
theorem lookups_eq (settings : Settings) (root : Node) :
    lookups settings root =
      (root.preorder.filter (·.kind = .call)).filterMap (Lookup.ofCall? settings) := by
  have hroot : nodesOn #[root] = root.preorder := List.append_nil _
  rw [lookups, toList_lookupsOn, List.nil_append, hroot, List.filterMap_filter]
  congr 1
  funext n
  rw [lookup?]
  simp only [decide_eq_true_eq]

/-! ## The line of a hint -/

/-- Is a line code? -/
def isCode (line : NumberedLine) : Bool := lineKind line.text = .code

/-- The line to which the hints of a line belong. -/
def target (lines : List NumberedLine) (own : NumberedLine) : NumberedLine :=
  (((lines.drop own.number).find? isCode).or (lines.filter isCode).getLast?).getD own

/-- The lines have the numbers that their places give. -/
def Numbered (lines : List NumberedLine) : Prop :=
  ∀ i line, lines[i]? = some line → line.number = i + 1

theorem numbered_numberedLines (d : Document) : Numbered (numberedLines d) := by
  intro i line hline
  rw [numberedLines, List.getElem?_map, Option.map_eq_some_iff] at hline
  obtain ⟨⟨text, number⟩, hget, rfl⟩ := hline
  rw [List.getElem?_zipIdx, Option.map_eq_some_iff] at hget
  obtain ⟨_, -, hpair⟩ := hget
  have hnumber : 1 + i = number := congrArg Prod.snd hpair
  change number = i + 1
  omega

/-- Before the next line of code there is none, so the last one stands before the hint. -/
theorem target_append {before rest : List NumberedLine} {own : NumberedLine}
    (hnumbered : Numbered (before ++ own :: rest)) (hown : isCode own = false) :
    target (before ++ own :: rest) own =
      ((rest.find? isCode).or (before.filter isCode).getLast?).getD own := by
  have hnumber : own.number = before.length + 1 := hnumbered before.length own (by simp)
  have hdrop : (before ++ own :: rest).drop own.number = rest := by
    rw [hnumber, ← List.drop_drop, List.drop_left]
    rfl
  rw [target, hdrop]
  cases hfind : rest.find? isCode with
  | some line => rfl
  | none =>
    have hnone : rest.filter isCode = [] := by
      rw [List.filter_eq_nil_iff]
      exact List.find?_eq_none.mp hfind
    rw [List.filter_append, List.filter_cons_of_neg (by simp [hown]), hnone, List.append_nil]

/-- What waits is attached to the next line of code, and what comes later where it belongs. -/
theorem attach_eq (path : String) (found : NumberedLine → List Hint)
    (before : List NumberedLine) {rest : List NumberedLine} (hnumbered : Numbered (before ++ rest))
    (hfound : ∀ line ∈ rest, lineKind line.text ≠ .comment → found line = [])
    (waiting : Waiting) :
    attach path found waiting (before.filter isCode).getLast? rest =
      waiting.map (fun (own, h) => h.occurrence path
        (((rest.find? isCode).or (before.filter isCode).getLast?).getD own)) ++
      rest.flatMap fun line => (found line).map
        (occurrence path (target (before ++ rest) line)) := by
  induction rest generalizing before waiting with
  | nil =>
    rw [attach, leftOver, List.flatMap_nil, List.append_nil]
    rfl
  | cons line rest ih =>
    have hsplit : before ++ line :: rest = before ++ [line] ++ rest := by simp
    obtain ⟨hline, hrest⟩ := List.forall_mem_cons.mp hfound
    have hlater := ih (before ++ [line]) (hsplit ▸ hnumbered) hrest
    rw [← hsplit] at hlater
    rw [attach, List.flatMap_cons]
    by_cases hcode : isCode line = true
    · have hkind : lineKind line.text = .code := of_decide_eq_true hcode
      have hlast : ((before ++ [line]).filter isCode).getLast? = some line := by
        rw [List.filter_append, List.filter_cons_of_pos hcode, List.filter_nil,
          List.getLast?_concat]
      rw [hlast] at hlater
      simp only [hkind, hline (by simp [hkind]), List.find?_cons_of_pos hcode, hlater,
        List.map_nil, List.nil_append, Option.some_or, Option.getD_some]
    · have hlast : (before ++ [line]).filter isCode = before.filter isCode := by
        rw [List.filter_append, List.filter_cons_of_neg hcode, List.filter_nil, List.append_nil]
      rw [hlast] at hlater
      rw [List.find?_cons_of_neg hcode]
      cases hkind : lineKind line.text with
      | code => exact absurd (decide_eq_true hkind) hcode
      | blank =>
        rw [hline (by simp [hkind])]
        exact hlater waiting
      | comment =>
        have hown := target_append hnumbered (Bool.eq_false_iff.mpr hcode)
        dsimp only
        rw [hlater, List.map_append, List.map_map, List.append_assoc, hown]
        rfl

/-! ## Verdicts on comments -/

/-- What is found in a comment as a verdict, with the line to which it belongs. -/
def verdictOf (path : String) (line : NumberedLine) : Except Event Hint → Verdict
  | .ok h => .found [h.occurrence path line]
  | .error e => .dropped e

theorem flatMap_occurrences_verdictOf (path : String) (line : NumberedLine)
    (found : List (Except Event Hint)) :
    (found.map (verdictOf path line)).flatMap Verdict.occurrences =
      (hintsOf found).map (occurrence path line) := by
  induction found with
  | nil => rfl
  | cons e found ih =>
    rw [List.map_cons, List.flatMap_cons, ih]
    cases e <;> rfl

theorem flatMap_events_verdictOf (path : String) (line : NumberedLine)
    (found : List (Except Event Hint)) :
    (found.map (verdictOf path line)).flatMap Verdict.events = eventsOf found := by
  induction found with
  | nil => rfl
  | cons e found ih =>
    rw [List.map_cons, List.flatMap_cons, ih]
    cases e <;> rfl

/-- A comment that declares uses of keys. -/
structure Declaration where
  /-- Its line. -/
  line : NumberedLine
  /-- The expression that declares them. -/
  expression : String
  deriving DecidableEq, Repr, Inhabited

/-- A line as a comment that declares uses of keys. -/
def declaration? (settings : Settings) (line : NumberedLine) : Option Declaration :=
  if lineKind line.text = .comment then
    (expression? settings.marker (Text.trimmed line.text)).map (⟨line, ·⟩)
  else none

/-- The comments of a file that declare uses of keys, in order. -/
def declarations (settings : Settings) (d : Document) : List Declaration :=
  (numberedLines d).filterMap (declaration? settings)

namespace Declaration

/-- The tree of the expression. -/
def root (parse : Parser) (a : Declaration) : Node := parse (Text.encoded a.expression)

/-- The verdict on a lookup in the expression. -/
def verdictOn (settings : Settings) (d : Document) (a : Declaration) (l : Lookup) : Verdict :=
  match ofLookup? settings l with
  | some h => .found [h.occurrence d.path (target (numberedLines d) a.line)]
  | none => .dropped (.hintDropped d.path a.line.number)

/-- The verdicts on a comment: one on each lookup in it, or a single one if it cannot be read. -/
def verdicts (parse : Parser) (settings : Settings) (d : Document) (a : Declaration) :
    List Verdict :=
  if (a.root parse).tag.hasError then [.dropped (.hintUnreadable d.path a.line.number)]
  else (lookups settings (a.root parse)).map (a.verdictOn settings d)

theorem verdicts_eq_map (parse : Parser) (settings : Settings) (d : Document) (a : Declaration) :
    a.verdicts parse settings d =
      (ofExpression parse settings d.path a.line.number a.expression).map
        (verdictOf d.path (target (numberedLines d) a.line)) := by
  rw [verdicts, ofExpression, root]
  by_cases herror : (parse (Text.encoded a.expression)).tag.hasError = true
  · simp only [if_pos herror]
    rfl
  · simp only [if_neg herror]
    rw [List.map_map]
    refine List.map_congr_left fun l _ => ?_
    rw [verdictOn, Function.comp_apply]
    cases ofLookup? settings l <;> rfl

end Declaration

section File

variable (parse : Parser) (settings : Settings) (d : Document)

/-- The verdicts on the comments of a file, in order. -/
def verdicts : List Verdict := (declarations settings d).flatMap (·.verdicts parse settings d)

theorem verdicts_eq_flatMap :
    verdicts parse settings d = (numberedLines d).flatMap fun line =>
      (ofLine parse settings d.path line.number line.text).map
        (verdictOf d.path (target (numberedLines d) line)) := by
  have hline : ∀ line, ((declaration? settings line).toList.flatMap
      (·.verdicts parse settings d)) = (ofLine parse settings d.path line.number line.text).map
        (verdictOf d.path (target (numberedLines d) line)) := by
    intro line
    rw [declaration?, ofLine]
    cases hkind : lineKind line.text with
    | blank => rfl
    | code => rfl
    | comment =>
      cases expression? settings.marker (Text.trimmed line.text) with
      | none => rfl
      | some expression =>
        rw [if_pos rfl, Option.map_some, Option.toList_some, List.flatMap_singleton,
          Declaration.verdicts_eq_map]
  rw [verdicts, declarations, List.filterMap_eq_flatMap_toList, List.flatMap_assoc]
  simp only [hline]

/-- The uses that comments declare are those of the verdicts. -/
theorem occurrences_eq :
    occurrences parse settings d = (verdicts parse settings d).flatMap Verdict.occurrences := by
  have hfound : ∀ line ∈ numberedLines d, lineKind line.text ≠ .comment →
      hintsOf (ofLine parse settings d.path line.number line.text) = [] := by
    intro line _ hkind
    rw [ofLine]
    cases hline : lineKind line.text with
    | blank => rfl
    | code => rfl
    | comment => exact absurd hline hkind
  have hattach := attach_eq d.path
    (fun line => hintsOf (ofLine parse settings d.path line.number line.text)) []
    (numbered_numberedLines d) hfound []
  rw [verdicts_eq_flatMap, List.flatMap_assoc]
  simp only [flatMap_occurrences_verdictOf]
  exact hattach

/-- What is said about comments is what the verdicts say. -/
theorem events_eq :
    events parse settings d = (verdicts parse settings d).flatMap Verdict.events := by
  rw [verdicts_eq_flatMap, List.flatMap_assoc]
  simp only [flatMap_events_verdictOf]
  rfl

end File

end LocaleKeys.Hint

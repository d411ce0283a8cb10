import LocaleKeys.Proofs.DocumentOrder
import LocaleKeys.Proofs.PlainMode

/-!
# Proofs: hints and lookups in code

The expression in a comment is read as code is: every lookup in it, at whatever depth, gives the
hint that has the key which the same lookup in plain code uses. The one exception is a lookup on a
constant whose key begins with a dot. In code the dots are left out; in a comment there is no hint.
-/

namespace LocaleKeys

open Ast

/-! ## The nodes of an expression -/

namespace Way

/-- Is every node on the way to a position one of the grammar? -/
def isNamed (w : Way) : Bool := List.all w (·.node.isNamed)

/-- The nodes at some positions that are reached through nodes of the grammar. -/
def namedNodes (ways : List Way) : List Node :=
  (ways.filter isNamed).filterMap fun w => w.head?.map Step.node

theorem namedNodes_append (ways others : List Way) :
    namedNodes (ways ++ others) = namedNodes ways ++ namedNodes others := by
  rw [namedNodes, List.filter_append, List.filterMap_append]
  rfl

theorem namedNodes_cons_of_isNamed {w : Way} (h : w.isNamed = true) (ways : List Way) :
    namedNodes (w :: ways) = (w.head?.map Step.node).toList ++ namedNodes ways := by
  rw [namedNodes, List.filter_cons_of_pos h]
  cases w <;> rfl

/-- Nothing below a token is reached. -/
theorem namedNodes_toNode_of_not_isNamed {n : Node} (h : n.isNamed = false) (around : Way)
    (before : List Node) : namedNodes (toNode around before n) = [] := by
  have hnone : (toNode around before n).filter isNamed = [] := by
    rw [List.filter_eq_nil_iff]
    intro w hw
    obtain ⟨inner, rfl⟩ := exists_of_mem_toNode hw
    simp [isNamed, h]
  rw [namedNodes, hnone]
  rfl

mutual

theorem namedNodes_toNode {around : Way} (h : around.isNamed = true) (before : List Node)
    (n : Node) :
    namedNodes (toNode around before n) = if n.isNamed then n.preorder else [] := by
  match n with
  | ⟨t, cs⟩ =>
    by_cases hn : (Node.mk t cs).isNamed = true
    · have hway : isNamed (⟨before, ⟨t, cs⟩⟩ :: around) = true := by
        rw [isNamed, List.all_cons, hn]
        exact h
      rw [if_pos hn, toNode, namedNodes_cons_of_isNamed hway, namedNodes_toNodes hway,
        Node.preorder]
      rfl
    · rw [if_neg hn]
      exact namedNodes_toNode_of_not_isNamed (Bool.eq_false_iff.mpr hn) around before

theorem namedNodes_toNodes {around : Way} (h : around.isNamed = true) (before cs : List Node) :
    namedNodes (toNodes around before cs) = Node.preorderAll cs := by
  match cs with
  | [] => rw [toNodes, Node.preorderAll]; rfl
  | c :: cs =>
    rw [toNodes, namedNodes_append, namedNodes_toNode h, namedNodes_toNodes h, Node.preorderAll]

end

theorem preorder_eq (root : Node) : root.preorder = root :: namedNodes (all root) := by
  rw [all, namedNodes_toNodes rfl]
  cases root
  rw [Node.preorder]
  rfl

end Way

/-! ## The hint of a lookup -/

namespace Lookup

/-- Is it a lookup on a constant with a key that begins with a dot? -/
def isDottedOnConstant (l : Lookup) : Bool :=
  l.form = .qualified && l.key.any (Key.isRelative ·.text)

/-- A key that begins with no dot is only put in its scope. A scope that has to be run makes no
difference here: it gives no key in full in any case. -/
theorem reading_of_not_relative {settings : Settings} {l : Lookup} {key : StringLit}
    (hkey : l.key = some key) (htext : key.text ≠ "")
    (hstrict : (key.interpolated && settings.strict) = false)
    (hrelative : Key.isRelative key.text = false) :
    l.reading settings = l.withScope key.text := by
  rw [reading, hkey]
  dsimp only
  rw [if_neg htext, if_neg (Bool.eq_false_iff.mp hstrict)]
  split
  · rename_i hscope
    rw [if_pos rfl, withScope, Key.absolute?, hscope]
    rfl
  · rw [if_neg Bool.false_ne_true, if_neg (Bool.eq_false_iff.mp hrelative)]

/-- The hint with a key in full that a lookup uses. -/
def hint (l : Lookup) (full : String) : Hint :=
  ⟨full, (l.key.map (·.text)).getD "", l.options.default?⟩

end Lookup

namespace Hint

/-- The hint that a call gives. -/
def ofCall? (settings : Settings) (call : Node) : Option Hint :=
  (Lookup.ofCall? settings call).bind (ofLookup? settings)

/-- The use of a hint's key at the place of a lookup. -/
def useBy (l : Lookup) (d : Document) (h : Hint) : Occurrence where
  key := h.key
  raw := h.raw
  path := d.path
  line := l.line
  column := l.column
  text := d.lineText l.line
  default := h.default

variable {settings : Settings} {l : Lookup}

theorem ofLookup?_of_isDottedOnConstant (h : l.isDottedOnConstant = true) :
    ofLookup? settings l = none := by
  obtain ⟨-, hrelative⟩ := Bool.and_eq_true_iff.mp h
  obtain ⟨key, hkey, hdot⟩ := (Option.any_eq_true _ _).mp hrelative
  rw [ofLookup?, hkey]
  simp only [hdot, Bool.or_true, Bool.true_or, if_true]

/-- A lookup gives a hint when its text alone gives a key in full, and with this key. -/
theorem ofLookup?_eq_of_reading (h : l.isDottedOnConstant = false) :
    ofLookup? settings l =
      match l.reading settings with
      | .complete full => some (l.hint full)
      | _ => none := by
  rw [ofLookup?]
  cases hkey : l.key with
  | none => rw [Lookup.reading, hkey]
  | some key =>
    dsimp only
    by_cases htext : key.text = ""
    · rw [Lookup.reading, hkey]
      simp only [htext, decide_true, Bool.true_or, if_true]
    by_cases hstrict : (key.interpolated && settings.strict) = true
    · rw [Lookup.reading, hkey]
      simp only [htext, hstrict, Bool.or_true, if_true, if_false]
    by_cases hrelative : Key.isRelative key.text = true
    · simp only [hrelative, Bool.or_true, Bool.true_or, if_true]
      have hform : l.form ≠ .qualified := by
        intro hform
        simp [Lookup.isDottedOnConstant, hform, hkey, hrelative] at h
      -- without a receiver, a relative key is never complete
      have hreads := l.reads settings
      generalize l.reading settings = reading at hreads ⊢
      cases hreads with
      | unusable | relative => rfl
      | complete hkey' _ hk =>
        cases Option.some.inj (hkey.symm.trans hkey')
        rcases hk with hk | hk
        · rw [hrelative] at hk
          cases hk
        · exact absurd hk hform
    · rw [Bool.not_eq_true] at hrelative hstrict
      rw [Lookup.reading_of_not_relative hkey htext hstrict hrelative, Lookup.withScope]
      simp only [htext, hrelative, hstrict, decide_false, Bool.or_false, if_neg Bool.false_ne_true]
      cases Key.absolute? key.text l.options with
      | none => rfl
      | some full =>
        by_cases hfull : full = ""
        · simp only [if_pos hfull]
        · simp only [if_neg hfull, Lookup.hint, hkey]
          rfl

/-- In plain mode, the uses by a lookup in code are those of its hint. -/
theorem site_plain_eq (h : l.isDottedOnConstant = false) (d : Document) (index : Index)
    (here : Nat) (caller : Option Caller) :
    ∃ verdict, Resolve.site { settings with mode := .plain } d index ⟨here, caller, .lookup l⟩ =
        .ok verdict ∧
      verdict.occurrences = ((ofLookup? settings l).map (useBy l d)).toList := by
  rw [ofLookup?_eq_of_reading h]
  simp only [Resolve.site, Lookup.reading_mode]
  cases l.reading settings with
  | complete full => exact ⟨_, rfl, rfl⟩
  | relative | unusable => exact ⟨_, rfl, rfl⟩

/-! ## The hints of an expression -/

theorem hintsOf_ofExpression {parse : Parser} {expression : String}
    (hread : (parse (Text.encoded expression)).tag.hasError = false) (path : String)
    (number : Nat) :
    hintsOf (ofExpression parse settings path number expression) =
      ((parse (Text.encoded expression)).preorder.filter (·.kind = .call)).filterMap
        (ofCall? settings) := by
  rw [ofExpression, if_neg (Bool.eq_false_iff.mp hread), hintsOf, lookups_eq, List.filterMap_map,
    List.filterMap_filterMap]
  congr 1
  funext call
  rw [ofCall?]
  congr 1
  funext l
  rw [Function.comp_apply]
  cases ofLookup? settings l <;> rfl

/-- **Hints are read as code is.** The lookups in an expression without an error are found on a
stack and give their hints in document order, at any depth. A lookup gives a hint when plain mode
would report it in code, and then with the same key, the same text and the same default. Only a
lookup on a constant with a dot before its key never gives one. -/
theorem hints_as_in_code (parse : Parser) (settings : Settings) (path : String) (number : Nat)
    (expression : String) (hread : (parse (Text.encoded expression)).tag.hasError = false) :
    let root := parse (Text.encoded expression)
    -- the search on a stack finds what one finds that goes down into each node
    lookups settings root =
        (root.preorder.filter (·.kind = .call)).filterMap (Lookup.ofCall? settings) ∧
      hintsOf (ofExpression parse settings path number expression) =
        ((root :: Way.namedNodes (Way.all root)).filter (·.kind = .call)).filterMap
          (ofCall? settings) ∧
      ∀ call l, Lookup.ofCall? settings call = some l →
        if l.form = .qualified ∧ l.key.any (Key.isRelative ·.text) then
          ofCall? settings call = none
        else
          ∀ d index here caller, ∃ verdict,
            Resolve.site { settings with mode := .plain } d index ⟨here, caller, .lookup l⟩ =
                .ok verdict ∧
              -- one use or none
              verdict.occurrences = ((ofCall? settings call).map fun h =>
                { key := h.key
                  raw := h.raw
                  path := d.path
                  line := l.line
                  column := l.column
                  text := d.lineText l.line
                  default := h.default }).toList := by
  intro root
  refine ⟨lookups_eq settings root, ?_, fun call l hcall => ?_⟩
  · rw [← Way.preorder_eq]
    exact hintsOf_ofExpression hread path number
  · have hhint : ofCall? settings call = ofLookup? settings l := by
      rw [ofCall?, hcall]
      rfl
    have hdotted : l.isDottedOnConstant = true ↔
        l.form = .qualified ∧ l.key.any (Key.isRelative ·.text) = true := by
      rw [Lookup.isDottedOnConstant, Bool.and_eq_true, decide_eq_true_iff]
    rw [hhint]
    split
    · rename_i h
      exact ofLookup?_of_isDottedOnConstant (hdotted.mpr h)
    · rename_i h
      exact site_plain_eq (Bool.eq_false_iff.mpr fun h' => h (hdotted.mp h'))

/-- A lookup whose key is looked up itself, and one on a constant with a dot before its key. -/
def nestedText : String := "t(t('saved', scope: 'notices')) && I18n.t('.title')"

/-- The inner lookup, which has a scope. -/
def savedCall : Node :=
  let node := Node.ofSpan (Text.encoded nestedText)
  node .call [] 2 30
    [node .identifier [.method] 2 3 [],
      node (.other "argument_list") [.arguments] 3 30
        [node .string [] 4 11 [node (.other "string_content") [] 5 10 []],
          node .pair [] 13 29
            [node .hashKeySymbol [.key] 13 18 [],
              node .string [.value] 20 29 [node (.other "string_content") [] 21 28 []]]]]

/-- The tree of the text. -/
def nestedExpression : Node :=
  let node := Node.ofSpan (Text.encoded nestedText)
  node (.other "program") [] 0 51
    [node (.other "binary") [] 0 51
      [node .call [.left] 0 31
        [node .identifier [.method] 0 1 [],
          node (.other "argument_list") [.arguments] 1 31 [savedCall]],
        node .call [.right] 35 51
          [node .constant [.receiver] 35 39 [], node .identifier [.method] 40 41 [],
            node (.other "argument_list") [.arguments] 41 51
              [node .string [] 42 50 [node (.other "string_content") [] 43 49 []]]]]]

theorem hints_as_in_code_nested :
    let parse : Parser := fun _ => nestedExpression
    let l : Lookup := ⟨.short, some ⟨"saved", false⟩, [("scope", .literal "notices")], 1, 3⟩
    (lookups {} nestedExpression).map (·.key) =
        [none, some ⟨"saved", false⟩, some ⟨".title", false⟩] ∧
      hintsOf (ofExpression parse {} "events.rb" 1 nestedText) =
        [⟨"notices.saved", "saved", none⟩] ∧
      Lookup.ofCall? {} savedCall = some l ∧
      ∃ verdict, Resolve.site { mode := .plain } ⟨"events.rb", []⟩ ⟨[], []⟩ ⟨0, none, .lookup l⟩ =
          .ok verdict ∧
        verdict.occurrences.map (·.key) = ["notices.saved"] := by
  intro parse l
  have hcall : Lookup.ofCall? {} savedCall = some l := by decide +kernel
  obtain ⟨hlookups, hhints, hsites⟩ := hints_as_in_code parse {} "events.rb" 1 nestedText rfl
  refine ⟨(congrArg (List.map Lookup.key) hlookups).trans (by decide +kernel),
    hhints.trans (by decide +kernel), hcall, ?_⟩
  have hsite := hsites savedCall l hcall
  rw [if_neg (by decide)] at hsite
  obtain ⟨verdict, hverdict, hoccurrences⟩ := hsite ⟨"events.rb", []⟩ ⟨[], []⟩ 0 none
  refine ⟨verdict, hverdict, ?_⟩
  rw [hoccurrences]
  decide +kernel

end Hint

end LocaleKeys

import LocaleKeys.Proofs.BlurredValues
import LocaleKeys.Proofs.Node
import Mathlib.Data.List.Basic

/-!
# Proofs: calls without their comments

A comment plays no role for its parent and is no part of a string. So a call says the same with its
comments and without them, unless a comment stands where every node has to be of one kind: between
the texts of an array, between the names after `private`, or after the hash literal that would be
the last argument. There it hides what the call says.
-/

namespace LocaleKeys

open Ast

/-! ## Trees without comments -/

namespace Ast

/-- Is it a string or symbol whose text is that of its children? -/
def Kind.isString : Kind → Bool
  | .string | .delimitedSymbol | .bareString | .bareSymbol | .chainedString => true
  | _ => false

/-- Is it an array literal? -/
def Kind.isArray : Kind → Bool
  | .array | .stringArray | .symbolArray => true
  | _ => false

namespace Node

/-- Is it a comment? -/
def isComment (n : Node) : Bool := n.kind = .comment

mutual

/-- A node without the comments below it. -/
def uncommented : Node → Node
  | ⟨t, cs⟩ => ⟨t, uncommentedAll cs⟩

/-- Nodes without the comments among them and below them. -/
def uncommentedAll : List Node → List Node
  | [] => []
  | c :: cs => if c.isComment then uncommentedAll cs else c.uncommented :: uncommentedAll cs

end

/-- Is a node no comment with a role, and no string with a comment in it? -/
def commentsApart (n : Node) : Bool :=
  (!n.isComment || n.tag.roles.isEmpty) && (!n.kind.isString || n.children.all (!·.isComment))

@[simp]
theorem tag_uncommented (n : Node) : n.uncommented.tag = n.tag := by
  obtain ⟨t, cs⟩ := n
  rfl

@[simp]
theorem children_uncommented (n : Node) : n.uncommented.children = uncommentedAll n.children := by
  obtain ⟨t, cs⟩ := n
  rfl

@[simp]
theorem kind_uncommented (n : Node) : n.uncommented.kind = n.kind :=
  congrArg Tag.kind n.tag_uncommented

@[simp]
theorem text_uncommented (n : Node) : n.uncommented.text = n.text :=
  congrArg Tag.text n.tag_uncommented

@[simp]
theorem line_uncommented (n : Node) : n.uncommented.line = n.line :=
  congrArg Tag.line n.tag_uncommented

@[simp]
theorem column_uncommented (n : Node) : n.uncommented.column = n.column :=
  congrArg Tag.column n.tag_uncommented

@[simp]
theorem isNamed_uncommented (n : Node) : n.uncommented.isNamed = n.isNamed :=
  congrArg Tag.named n.tag_uncommented

@[simp]
theorem plays_uncommented (role : Role) (n : Node) : n.uncommented.plays role = n.plays role := by
  rw [plays, plays, tag_uncommented]

theorem kind_of_isComment {n : Node} (h : n.isComment = true) : n.kind = .comment :=
  of_decide_eq_true h

/-! ## Lists of nodes without comments -/

section Lists

variable {test : Node → Bool} {cs : List Node}

theorem uncommentedAll_eq (cs : List Node) :
    uncommentedAll cs = (cs.filter (!·.isComment)).map uncommented := by
  induction cs with
  | nil => rfl
  | cons c cs ih =>
    rw [uncommentedAll, List.filter_cons, ih]
    cases c.isComment <;> rfl

theorem uncommentedAll_of_forall (h : ∀ c ∈ cs, c.isComment = false) :
    uncommentedAll cs = cs.map uncommented := by
  rw [uncommentedAll_eq, List.filter_eq_self.mpr fun c hc => by rw [h c hc]; rfl]

theorem isEmpty_uncommentedAll (cs : List Node) :
    (uncommentedAll cs).isEmpty = cs.all isComment := by
  induction cs with
  | nil => rfl
  | cons c cs ih =>
    rw [uncommentedAll, List.all_cons]
    cases c.isComment with
    | true => exact ih
    | false => rfl

theorem filter_uncommentedAll (htest : ∀ n, test n.uncommented = test n) (cs : List Node) :
    (uncommentedAll cs).filter test = uncommentedAll (cs.filter test) := by
  have hcomp : test ∘ uncommented = test := funext htest
  simp only [uncommentedAll_eq, List.filter_map, hcomp, List.filter_filter, Bool.and_comm]

theorem find?_uncommentedAll (htest : ∀ n, test n.uncommented = test n)
    (hcomments : ∀ c ∈ cs, c.isComment = true → test c = false) :
    (uncommentedAll cs).find? test = (cs.find? test).map uncommented := by
  induction cs with
  | nil => rfl
  | cons c cs ih =>
    obtain ⟨hc, hcs⟩ := List.forall_mem_cons.mp hcomments
    rw [uncommentedAll, List.find?_cons]
    by_cases hcomment : c.isComment = true
    · rw [if_pos hcomment, hc hcomment, ih hcs]
    · rw [if_neg hcomment, List.find?_cons, htest]
      cases test c with
      | true => rfl
      | false => exact ih hcs

theorem any_uncommentedAll (htest : ∀ n, test n.uncommented = test n)
    (hcomments : ∀ c ∈ cs, c.isComment = true → test c = false) :
    (uncommentedAll cs).any test = cs.any test := by
  rw [← List.isSome_find?, ← List.isSome_find?, find?_uncommentedAll htest hcomments,
    Option.isSome_map]

end Lists

theorem named_uncommented (n : Node) : n.uncommented.named = uncommentedAll n.named := by
  rw [named, children_uncommented, filter_uncommentedAll isNamed_uncommented, named]

/-! ## Roles -/

variable {n : Node}

theorem plays_eq_false (h : n.everywhere commentsApart = true) {c : Node} (hc : c ∈ n.children)
    (hcomment : c.isComment = true) (role : Role) : c.plays role = false := by
  have hapart := everywhere_self (everywhere_child h hc)
  simp only [commentsApart, hcomment, Bool.not_true, Bool.false_or, Bool.and_eq_true] at hapart
  rw [plays, List.isEmpty_iff.mp hapart.1]
  rfl

theorem child?_uncommented (h : n.everywhere commentsApart = true) (role : Role) :
    n.uncommented.child? role = (n.child? role).map uncommented := by
  rw [child?, children_uncommented]
  exact find?_uncommentedAll (plays_uncommented role) fun c hc hcomment =>
    plays_eq_false h hc hcomment role

/-! ## Texts -/

theorem partText_uncommented (n : Node) :
    StringLit.partText n.uncommented = StringLit.partText n := by
  simp [StringLit.partText]

theorem ofParts_map_uncommented (parts : List Node) :
    StringLit.ofParts (parts.map uncommented) = StringLit.ofParts parts := by
  simp [StringLit.ofParts, Function.comp_def, partText_uncommented]

theorem stringLits?_map_uncommented {cs : List Node}
    (h : ∀ c ∈ cs, c.uncommented.stringLit? = c.stringLit?) :
    stringLits? (cs.map uncommented) = stringLits? cs := by
  induction cs with
  | nil => rfl
  | cons c cs ih =>
    obtain ⟨hc, hcs⟩ := List.forall_mem_cons.mp h
    rw [List.map_cons, stringLits?, stringLits?, isNamed_uncommented, hc, ih hcs]

theorem stringLit?_uncommented (n : Node) (h : n.everywhere commentsApart = true) :
    n.uncommented.stringLit? = n.stringLit? := by
  induction n using induct with
  | h t cs ih =>
    by_cases hstring : t.kind.isString = true
    · have hcs : ∀ c ∈ cs, c.isComment = false := by
        have hapart := everywhere_self h
        simp only [commentsApart, kind, tag, hstring, children, Bool.and_eq_true] at hapart
        simpa using hapart.2
      have hnamed : ∀ c ∈ cs.filter isNamed, c.isComment = false :=
        fun c hc => hcs c (List.mem_filter.mp hc).1
      have hchildren : uncommentedAll cs = cs.map uncommented := uncommentedAll_of_forall hcs
      have hparts : (uncommentedAll cs).filter isNamed = (cs.filter isNamed).map uncommented := by
        rw [filter_uncommentedAll isNamed_uncommented, uncommentedAll_of_forall hnamed]
      have hpieces : stringLits? (uncommentedAll cs) = stringLits? cs := by
        rw [hchildren]
        exact stringLits?_map_uncommented fun c hc => ih c hc (everywhere_child h hc)
      simp only [uncommented, stringLit?, hparts, ofParts_map_uncommented, List.isEmpty_map,
        hpieces]
    · rw [uncommented, stringLit?, stringLit?]
      cases hkind : t.kind with
      | string | delimitedSymbol | bareString | bareSymbol | chainedString =>
        exact absurd (congrArg Kind.isString hkind) hstring
      | _ => rfl

theorem plainText?_uncommented (h : n.everywhere commentsApart = true) :
    n.uncommented.plainText? = n.plainText? := by
  rw [plainText?, stringLit?_uncommented n h, plainText?]

theorem plainText?_of_isComment (h : n.isComment = true) : n.plainText? = none := by
  obtain ⟨t, cs⟩ := n
  have hkind : t.kind = .comment := kind_of_isComment h
  rw [plainText?, stringLit?, hkind]

/-! ## Names and values -/

theorem constantPath_uncommented (n : Node) (h : n.everywhere commentsApart = true) :
    n.uncommented.constantPath = n.constantPath := by
  induction n using induct with
  | h t cs ih =>
    have hpath : ∀ role, constantPathOf role (uncommentedAll cs) = constantPathOf role cs := by
      intro role
      have hfind : (uncommentedAll cs).find? (plays role) =
          (cs.find? (plays role)).map uncommented := child?_uncommented h role
      rw [constantPathOf_eq, constantPathOf_eq, hfind]
      cases hc : cs.find? (plays role) with
      | none => rfl
      | some c =>
        have hmem : c ∈ cs := List.mem_of_find?_eq_some hc
        exact ih c hmem (everywhere_child h hmem)
    simp only [uncommented, constantPath, hpath]

/-- Are comments all that keeps nodes from being plain texts? -/
def hidesTexts (ns : List Node) : Bool :=
  ns.any isComment && (plainTexts? (ns.filter (!·.isComment))).isSome

theorem plainTexts?_of_any_isComment {ns : List Node} (h : ns.any isComment = true) :
    plainTexts? ns = none := by
  induction ns with
  | nil => cases h
  | cons n ns ih =>
    rw [List.any_cons, Bool.or_eq_true] at h
    rcases h with h | h
    · rw [plainTexts?, plainText?_of_isComment h]
    · rw [plainTexts?, ih h]
      cases n.plainText? <;> rfl

theorem plainTexts?_map_uncommented {ns : List Node}
    (h : ∀ n ∈ ns, n.everywhere commentsApart = true) :
    plainTexts? (ns.map uncommented) = plainTexts? ns := by
  induction ns with
  | nil => rfl
  | cons n ns ih =>
    obtain ⟨hn, hns⟩ := List.forall_mem_cons.mp h
    rw [List.map_cons, plainTexts?, plainTexts?, plainText?_uncommented hn, ih hns]

theorem plainTexts?_uncommentedAll {ns : List Node}
    (h : ∀ n ∈ ns, n.everywhere commentsApart = true) :
    plainTexts? (uncommentedAll ns) = plainTexts? (ns.filter (!·.isComment)) := by
  rw [uncommentedAll_eq]
  exact plainTexts?_map_uncommented fun n hn => h n (List.mem_filter.mp hn).1

theorem plainTexts?_of_not_hidesTexts {ns : List Node} (h : hidesTexts ns = false) :
    plainTexts? (ns.filter (!·.isComment)) = plainTexts? ns := by
  by_cases hcomment : ns.any isComment = true
  · rw [hidesTexts, hcomment, Bool.true_and] at h
    rw [plainTexts?_of_any_isComment hcomment, ← Option.isNone_iff_eq_none, ← Option.not_isSome, h]
    rfl
  · have hnone : ∀ n ∈ ns, (!n.isComment) = true := by simpa using hcomment
    rw [List.filter_eq_self.mpr hnone]

/-- Are comments all that keeps a node from being an array of plain texts? -/
def hidesList (n : Node) : Bool := n.kind.isArray && hidesTexts n.named

theorem optionValue?_uncommented (h : n.everywhere commentsApart = true)
    (hlist : n.hidesList = false) : n.uncommented.optionValue? = n.optionValue? := by
  have htexts : n.kind.isArray = true → plainTexts? n.uncommented.named = plainTexts? n.named := by
    intro harray
    rw [hidesList, harray, Bool.true_and] at hlist
    rw [named_uncommented, plainTexts?_uncommentedAll (everywhere_named h),
      plainTexts?_of_not_hidesTexts hlist]
  rw [optionValue?, optionValue?, kind_uncommented, text_uncommented, plainText?_uncommented h]
  cases hkind : n.kind with
  | array | stringArray | symbolArray => rw [htexts (by rw [hkind]; rfl)]
  | _ => rfl

theorem blurred_optionValue?_uncommented (h : n.everywhere commentsApart = true) :
    n.uncommented.optionValue?.map OptionValue.blurred =
      n.optionValue?.map OptionValue.blurred := by
  by_cases harray : n.kind.isArray = true
  · have hblurred : ∀ m : Node, m.kind.isArray = true →
        m.optionValue?.map OptionValue.blurred = some (.dynamic "") := by
      intro m hm
      rw [optionValue?]
      cases hkind : m.kind with
      | array | stringArray | symbolArray => cases plainTexts? m.named <;> rfl
      | _ => rw [hkind] at hm; cases hm
    rw [hblurred n harray, hblurred n.uncommented (by rw [kind_uncommented, harray])]
  · rw [optionValue?_uncommented h (by rw [hidesList, Bool.eq_false_iff.mpr harray]; rfl)]

end Node

end Ast

/-! ## Options -/

namespace Options

/-- Are comments all that keeps a pair from giving an option whose names or segments are read? -/
def hidesNames (pair : Node) : Bool :=
  ((pair.child? .key).bind Node.plainText?).any (· ∈ listed) &&
    (pair.child? .value).any Node.hidesList

theorem blurred_ofPair?_uncommented {pair : Node}
    (h : pair.everywhere Node.commentsApart = true) (hnames : hidesNames pair = false) :
    (ofPair? pair.uncommented).map blurredPair = (ofPair? pair).map blurredPair := by
  have hkey : (pair.uncommented.child? .key).bind Node.plainText? =
      (pair.child? .key).bind Node.plainText? := by
    rw [Node.child?_uncommented h]
    cases hc : pair.child? .key with
    | none => rfl
    | some key => exact Node.plainText?_uncommented (Node.everywhere_child? h hc)
  rw [ofPair?, ofPair?, hkey, Node.child?_uncommented h]
  cases htext : (pair.child? .key).bind Node.plainText? with
  | none => rfl
  | some key =>
    cases hc : pair.child? .value with
    | none => rfl
    | some value =>
      have hvalue := Node.everywhere_child? h hc
      simp only [Option.map_some, Option.map_map, Function.comp_def, blurredPair, blurredAt]
      by_cases hlisted : key ∈ listed
      · have hlist : value.hidesList = false := by
          simpa [hidesNames, htext, hc, hlisted] using hnames
        rw [Node.optionValue?_uncommented hvalue hlist]
      · have hblurred := congrArg (Option.map fun v => (key, v))
          (Node.blurred_optionValue?_uncommented hvalue)
        simpa [hlisted, Function.comp_def] using hblurred

theorem blurred_ofPairs_uncommented {pairs : List Node}
    (h : ∀ pair ∈ pairs, pair.everywhere Node.commentsApart = true)
    (hnames : ∀ pair ∈ pairs, hidesNames pair = false) :
    (ofPairs (pairs.map Node.uncommented)).blurred = (ofPairs pairs).blurred := by
  have hpairs : ((pairs.map Node.uncommented).filterMap ofPair?).map blurredPair =
      (pairs.filterMap ofPair?).map blurredPair := by
    rw [List.map_filterMap, List.map_filterMap, List.filterMap_map]
    exact List.filterMap_congr fun pair hpair =>
      blurred_ofPair?_uncommented (h pair hpair) (hnames pair hpair)
  rw [ofPairs, ofPairs, blurred_foldl_insert, blurred_foldl_insert, hpairs]

end Options

/-! ## Arguments -/

namespace Arguments

open Node (commentsApart uncommented uncommentedAll)

/-- Do only comments come after a hash literal that would give options as the last argument? `seen`
tells whether a positional argument came before. -/
def hidesOptions (seen : Bool) : List Node → Bool
  | [] => false
  | a :: rest =>
    a.kind = .hash && seen && !rest.isEmpty && rest.all Node.isComment ||
      hidesOptions (seen || isPositional seen a.kind rest) rest

theorem givesOptions_uncommentedAll {seen : Bool} {kind : Kind} {rest : List Node}
    (h : (kind = .hash && seen && !rest.isEmpty && rest.all Node.isComment) = false) :
    givesOptions seen kind (uncommentedAll rest) = givesOptions seen kind rest := by
  cases rest with
  | nil => rfl
  | cons a rest =>
    rw [List.isEmpty_cons, Bool.not_false, Bool.and_true] at h
    rw [givesOptions, givesOptions, Node.isEmpty_uncommentedAll, h, List.isEmpty_cons,
      Bool.and_false]

theorem isPositional_congr {seen : Bool} {kind : Kind} {rest rest' : List Node}
    (h : givesOptions seen kind rest = givesOptions seen kind rest') :
    isPositional seen kind rest = isPositional seen kind rest' := by
  simp only [isPositional, h]

theorem isPositional_of_isComment {a : Node} (h : a.isComment = true) (seen : Bool)
    (rest : List Node) : isPositional seen a.kind rest = false := by
  rw [Node.kind_of_isComment h, isPositional]

theorem positionalOf_uncommentedAll {seen : Bool} {args : List Node}
    (h : hidesOptions seen args = false) :
    positionalOf seen (uncommentedAll args) = (positionalOf seen args).map uncommented := by
  induction args generalizing seen with
  | nil => rfl
  | cons a rest ih =>
    rw [hidesOptions, Bool.or_eq_false_iff] at h
    obtain ⟨ha, hrest⟩ := h
    rw [uncommentedAll, positionalOf]
    by_cases hcomment : a.isComment = true
    · rw [isPositional_of_isComment hcomment, Bool.or_false] at hrest
      rw [isPositional_of_isComment hcomment, if_pos hcomment, ih hrest]
      rfl
    · rw [if_neg hcomment, positionalOf, Node.kind_uncommented,
        isPositional_congr (givesOptions_uncommentedAll ha)]
      cases hpositional : isPositional seen a.kind rest with
      | true =>
        rw [hpositional, Bool.or_true] at hrest
        exact congrArg _ (ih hrest)
      | false =>
        rw [hpositional, Bool.or_false] at hrest
        exact ih hrest

theorem pairs_uncommented (a : Node) :
    a.uncommented.named.filter (·.kind = .pair) =
      (a.named.filter (·.kind = .pair)).map uncommented := by
  have hkind : ∀ n : Node, decide (n.uncommented.kind = .pair) = decide (n.kind = .pair) :=
    fun n => by rw [Node.kind_uncommented]
  rw [Node.named_uncommented, Node.filter_uncommentedAll hkind]
  refine Node.uncommentedAll_of_forall fun c hc => ?_
  have hpair : c.kind = .pair := of_decide_eq_true (List.mem_filter.mp hc).2
  rw [Node.isComment, hpair]
  rfl

theorem pairsOf_uncommentedAll {seen : Bool} {args : List Node}
    (h : hidesOptions seen args = false) :
    pairsOf seen (uncommentedAll args) = (pairsOf seen args).map uncommented := by
  induction args generalizing seen with
  | nil => rfl
  | cons a rest ih =>
    rw [hidesOptions, Bool.or_eq_false_iff] at h
    obtain ⟨ha, hrest⟩ := h
    rw [uncommentedAll, pairsOf]
    by_cases hcomment : a.isComment = true
    · rw [isPositional_of_isComment hcomment, Bool.or_false] at hrest
      rw [if_pos hcomment, ih hrest, isPositional_of_isComment hcomment, Bool.or_false,
        Node.kind_of_isComment hcomment]
      rfl
    · rw [if_neg hcomment, pairsOf, Node.kind_uncommented, givesOptions_uncommentedAll ha,
        isPositional_congr (givesOptions_uncommentedAll ha)]
      by_cases hpair : a.kind = .pair
      · have hnot : isPositional seen a.kind rest = false := by rw [hpair, isPositional]
        rw [hnot, Bool.or_false] at hrest
        rw [if_pos hpair, if_pos hpair, ih hrest, List.map_cons]
      · rw [if_neg hpair, if_neg hpair, pairs_uncommented, ih hrest]
        exact (apply_ite (List.map uncommented) _ _ _).symm

theorem mem_of_mem_positionalOf {seen : Bool} {args : List Node} {a : Node}
    (h : a ∈ positionalOf seen args) : a ∈ args := by
  induction args generalizing seen with
  | nil => cases h
  | cons b rest ih =>
    rw [positionalOf] at h
    split at h
    · rcases List.mem_cons.mp h with rfl | h
      · exact List.mem_cons_self
      · exact List.mem_cons_of_mem b (ih h)
    · exact List.mem_cons_of_mem b (ih h)

theorem everywhere_of_mem_pairsOf {test : Node → Bool} {seen : Bool} {args : List Node}
    (h : ∀ a ∈ args, a.everywhere test = true) {pair : Node} (hpair : pair ∈ pairsOf seen args) :
    pair.everywhere test = true := by
  induction args generalizing seen with
  | nil => cases hpair
  | cons a rest ih =>
    obtain ⟨ha, hrest⟩ := List.forall_mem_cons.mp h
    rw [pairsOf] at hpair
    split at hpair
    · rcases List.mem_cons.mp hpair with rfl | hpair
      · exact ha
      · exact ih hrest hpair
    · split at hpair
      · exact Node.everywhere_named ha pair (List.mem_filter.mp hpair).1
      · exact ih hrest hpair

/-- The nodes that are the arguments of a call. -/
def nodesOf (call : Node) : List Node := ((call.child? .arguments).map Node.named).getD []

/-- Do comments hide an option of a call? -/
def hides (call : Node) : Bool :=
  hidesOptions false (nodesOf call) || (pairsOf false (nodesOf call)).any Options.hidesNames

variable {call : Node}

theorem nodesOf_uncommented (h : call.everywhere commentsApart = true) :
    nodesOf call.uncommented = uncommentedAll (nodesOf call) := by
  rw [nodesOf, nodesOf, Node.child?_uncommented h]
  cases call.child? .arguments with
  | none => rfl
  | some arguments => exact Node.named_uncommented arguments

theorem everywhere_nodesOf {test : Node → Bool} (h : call.everywhere test = true) :
    ∀ a ∈ nodesOf call, a.everywhere test = true := by
  rw [nodesOf]
  cases hc : call.child? .arguments with
  | none => exact List.forall_mem_nil _
  | some arguments => exact Node.everywhere_named (Node.everywhere_child? h hc)

theorem positional_uncommented (h : call.everywhere commentsApart = true)
    (hhides : hides call = false) :
    (ofCall call.uncommented).positional = (ofCall call).positional.map uncommented := by
  have hnodes : (ofCall call.uncommented).positional =
      positionalOf false (nodesOf call.uncommented) := rfl
  rw [hides, Bool.or_eq_false_iff] at hhides
  rw [hnodes, nodesOf_uncommented h, positionalOf_uncommentedAll hhides.1]
  rfl

theorem options_uncommented (h : call.everywhere commentsApart = true)
    (hhides : hides call = false) :
    (ofCall call.uncommented).options.blurred = (ofCall call).options.blurred := by
  have hnodes : (ofCall call.uncommented).options =
      Options.ofPairs (pairsOf false (nodesOf call.uncommented)) := rfl
  rw [hides, Bool.or_eq_false_iff, List.any_eq_false] at hhides
  rw [hnodes, nodesOf_uncommented h, pairsOf_uncommentedAll hhides.1]
  exact Options.blurred_ofPairs_uncommented
    (fun _ hpair => everywhere_of_mem_pairsOf (everywhere_nodesOf h) hpair)
    fun pair hpair => Bool.eq_false_iff.mpr (hhides.2 pair hpair)

theorem everywhere_of_mem_positional {test : Node → Bool} (h : call.everywhere test = true)
    {a : Node} (ha : a ∈ (ofCall call).positional) : a.everywhere test = true :=
  everywhere_nodesOf h a (mem_of_mem_positionalOf ha)

end Arguments

/-! ## Sites -/

open Ast.Node (commentsApart uncommented)

variable {settings : Settings} {call : Node}

theorem Lookup.formOf?_uncommented (h : call.everywhere commentsApart = true) :
    formOf? settings call.uncommented = formOf? settings call := by
  rw [formOf?, formOf?, Node.child?_uncommented h, Node.child?_uncommented h]
  cases call.child? .method with
  | none => rfl
  | some method =>
    cases hreceiver : call.child? .receiver with
    | none => simp only [Option.map_some, Option.map_none, Node.text_uncommented]
    | some receiver =>
      have hpath := receiver.constantPath_uncommented (Node.everywhere_child? h hreceiver)
      simp only [Option.map_some, Node.text_uncommented, Node.kind_uncommented, hpath]

theorem Lookup.blurred_ofCall?_uncommented (h : call.everywhere commentsApart = true)
    (hhides : (ofCall? settings call).isSome = true → Arguments.hides call = false) :
    (ofCall? settings call.uncommented).map blurred = (ofCall? settings call).map blurred := by
  rw [ofCall?, ofCall?, formOf?_uncommented h]
  cases hform : formOf? settings call with
  | none => rfl
  | some form =>
    have hshown := hhides (by rw [ofCall?, hform]; rfl)
    have hoptions := Arguments.options_uncommented h hshown
    have hkey : (Arguments.ofCall call.uncommented).positional.head?.bind Node.stringLit? =
        (Arguments.ofCall call).positional.head?.bind Node.stringLit? := by
      rw [Arguments.positional_uncommented h hshown, List.head?_map]
      cases ha : (Arguments.ofCall call).positional.head? with
      | none => rfl
      | some a =>
        exact a.stringLit?_uncommented
          (Arguments.everywhere_of_mem_positional h (List.mem_of_head? ha))
    simp only [Option.map_some, blurred, hoptions, hkey, Node.line_uncommented,
      Node.column_uncommented]

theorem Helper.namedModel?_uncommented {receiver : Node}
    (h : receiver.everywhere commentsApart = true) :
    namedModel? settings receiver.uncommented =
      (namedModel? settings receiver).map uncommented := by
  simp only [namedModel?, Node.child?_uncommented h, Node.kind_uncommented, Option.isNone_map,
    Option.any_map, Node.text_uncommented]
  split
  · cases receiver.child? .receiver with
    | none => rfl
    | some model =>
      rw [Option.map_some, Option.filter_some, Option.filter_some, Node.kind_uncommented]
      split <;> rfl
  · rfl

theorem Helper.everywhere_of_namedModel? {test : Node → Bool} {receiver model : Node}
    (h : receiver.everywhere test = true) (hmodel : namedModel? settings receiver = some model) :
    model.everywhere test = true := by
  rw [namedModel?] at hmodel
  split at hmodel
  · exact Node.everywhere_child? h (Option.filter_eq_some_iff.mp hmodel).1
  · cases hmodel

theorem Helper.modelOf_uncommented {constant : Node}
    (h : constant.everywhere commentsApart = true) :
    modelOf constant.uncommented = modelOf constant := by
  rw [modelOf, modelOf, constant.constantPath_uncommented h]

theorem Helper.blurred_ofCall?_uncommented (h : call.everywhere commentsApart = true)
    (hhides : (ofCall? settings call).isSome = true → Arguments.hides call = false) :
    (ofCall? settings call.uncommented).map blurred = (ofCall? settings call).map blurred := by
  rw [ofCall?] at hhides
  rw [ofCall?, ofCall?, Node.child?_uncommented h, Node.child?_uncommented h]
  cases hmethod : call.child? .method with
  | none => rfl
  | some method =>
    cases hreceiver : call.child? .receiver with
    | none => rfl
    | some receiver =>
      have hapart := Node.everywhere_child? h hreceiver
      simp only [hmethod, hreceiver] at hhides
      simp only [Option.map_some, Node.text_uncommented, Node.kind_uncommented,
        Node.line_uncommented, Node.column_uncommented]
      split
      next hattribute =>
        have hshown := hhides (by rw [if_pos hattribute]; rfl)
        have hargument : ((Arguments.ofCall call.uncommented).positional.head?.bind
            Node.optionValue?).map OptionValue.blurred =
              ((Arguments.ofCall call).positional.head?.bind Node.optionValue?).map
                OptionValue.blurred := by
          rw [Arguments.positional_uncommented h hshown, List.head?_map]
          cases ha : (Arguments.ofCall call).positional.head? with
          | none => rfl
          | some a =>
            exact Node.blurred_optionValue?_uncommented
              (Arguments.everywhere_of_mem_positional h (List.mem_of_head? ha))
        simp only [Option.map_some, blurred, hargument, modelOf_uncommented hapart]
      next hattribute =>
        rw [if_neg hattribute] at hhides
        split
        next hhuman =>
          rw [if_pos hhuman] at hhides
          rw [namedModel?_uncommented hapart]
          cases hmodel : namedModel? settings receiver with
          | none => rfl
          | some model =>
            have hshown := hhides (by rw [hmodel]; rfl)
            have hcount : ((Arguments.ofCall call.uncommented).options.get? "count").map
                OptionValue.blurred =
                  ((Arguments.ofCall call).options.get? "count").map OptionValue.blurred := by
              have hblurred := congrArg (Options.get? · "count")
                (Arguments.options_uncommented h hshown)
              have hname : Options.blurredAt "count" = OptionValue.blurred := rfl
              simpa only [Options.get?_blurred, hname] using hblurred
            have hconstant := everywhere_of_namedModel? hapart hmodel
            simp only [Option.map_some, blurred, hcount, modelOf_uncommented hconstant]
        next => rfl

/-- A call is the same sites without its comments, if they hide none of its options. -/
theorem Site.blurred_ofCall_uncommented (h : call.everywhere commentsApart = true)
    (hhides : (Site.ofCall settings call).isEmpty = false → Arguments.hides call = false) :
    (Site.ofCall settings call.uncommented).map blurred =
      (Site.ofCall settings call).map blurred := by
  have hlookups : ∀ o : Option Lookup, (o.map Site.lookup).toList.map blurred =
      ((o.map Lookup.blurred).map Site.lookup).toList := by
    intro o
    cases o <;> rfl
  have hhelpers : ∀ o : Option Helper, (o.map Site.helper).toList.map blurred =
      ((o.map Helper.blurred).map Site.helper).toList := by
    intro o
    cases o <;> rfl
  have hlookup : (Lookup.ofCall? settings call.uncommented).map Lookup.blurred =
      (Lookup.ofCall? settings call).map Lookup.blurred := by
    refine Lookup.blurred_ofCall?_uncommented h fun hsome => hhides ?_
    obtain ⟨l, hl⟩ := Option.isSome_iff_exists.mp hsome
    simp [Site.ofCall, hl]
  have hhelper : (Helper.ofCall? settings call.uncommented).map Helper.blurred =
      (Helper.ofCall? settings call).map Helper.blurred := by
    refine Helper.blurred_ofCall?_uncommented h fun hsome => hhides ?_
    obtain ⟨l, hl⟩ := Option.isSome_iff_exists.mp hsome
    simp [Site.ofCall, hl]
  rw [Site.ofCall, Site.ofCall, List.map_append, List.map_append, hlookups, hlookups, hhelpers,
    hhelpers, hlookup, hhelper]

end LocaleKeys

import LocaleKeys.Command.Scan
import LocaleKeys.Proofs.Lines
import LocaleKeys.Proofs.PlainMode
import LocaleKeys.Proofs.Utf8

/-!
# Proofs: ways to start a scan

A text, the bytes of a file and a syntax tree with or without its text are scanned alike. The text
that is taken from a tree is not the text of the file: the root begins with its first token, so that
the lines before it come back empty, the blanks before it as spaces, and what follows it not at all.
But all of that is blank, and a scan does not see the difference.
-/

namespace LocaleKeys

open Ast

/-! ## Lines and blanks -/

namespace Text

section Pieces

variable {α : Type} [DecidableEq α] {sep : α}

theorem exists_pieces (sep : α) (as : List α) : ∃ p ps, pieces sep as = p :: ps := by
  cases as with
  | nil => exact ⟨[], [], rfl⟩
  | cons a as =>
    rw [pieces]
    split
    · exact ⟨_, _, rfl⟩
    · split <;> exact ⟨_, _, rfl⟩

theorem pieces_cons_of_ne {a : α} {as p : List α} {ps : List (List α)} (ha : a ≠ sep)
    (h : pieces sep as = p :: ps) : pieces sep (a :: as) = (a :: p) :: ps := by
  rw [pieces, if_neg ha, h]

/-- Where there is no separator, the first piece only becomes longer. -/
theorem pieces_append {as bs p : List α} {ps : List (List α)} (has : ∀ a ∈ as, a ≠ sep)
    (h : pieces sep bs = p :: ps) : pieces sep (as ++ bs) = (as ++ p) :: ps := by
  induction as with
  | nil => exact h
  | cons a as ih =>
    obtain ⟨ha, has⟩ := List.forall_mem_cons.mp has
    exact pieces_cons_of_ne ha (ih has)

theorem pieces_sep (as : List α) : pieces sep (sep :: as) = [] :: pieces sep as := by
  rw [pieces, if_pos rfl]

theorem pieces_append_sep {as : List α} (has : ∀ a ∈ as, a ≠ sep) (bs : List α) :
    pieces sep (as ++ sep :: bs) = as :: pieces sep bs := by
  rw [pieces_append has (pieces_sep bs), List.append_nil]

theorem mem_of_mem_pieces {as p : List α} (hp : p ∈ pieces sep as) : ∀ a ∈ p, a ∈ as := by
  induction as generalizing p with
  | nil =>
    rw [List.mem_singleton.mp hp]
    exact List.forall_mem_nil _
  | cons b as ih =>
    obtain ⟨q, qs, hqs⟩ := exists_pieces sep as
    rw [hqs] at ih
    rw [pieces, hqs] at hp
    intro a ha
    split at hp
    · rcases List.mem_cons.mp hp with rfl | hp
      · cases ha
      · exact List.mem_cons_of_mem b (ih hp a ha)
    · rcases List.mem_cons.mp hp with rfl | hp
      · rcases List.mem_cons.mp ha with rfl | ha
        · exact List.mem_cons_self
        · exact List.mem_cons_of_mem b (ih List.mem_cons_self a ha)
      · exact List.mem_cons_of_mem b (ih (List.mem_cons_of_mem q hp) a ha)

end Pieces

/-- The lines of some characters. -/
def linesOf (cs : List Char) : List String := (pieces '\n' cs).map String.ofList

theorem sameLines_of_blank {ps : List (List Char)}
    (h : ∀ p ∈ ps, ∀ c ∈ p, isBlank c = true) : SameLines (ps.map String.ofList) [] := by
  induction ps with
  | nil => exact .nil
  | cons p ps ih =>
    obtain ⟨hp, hps⟩ := List.forall_mem_cons.mp h
    exact .blank (by simpa using hp) (ih hps)

/-- Blanks after a text make its last line longer and add blank lines. -/
theorem exists_pieces_append_blank (cs : List Char) {t : List Char}
    (ht : ∀ c ∈ t, isBlank c = true) :
    ∃ p b ps qs, pieces '\n' (cs ++ t) = (p ++ b) :: ps ∧ pieces '\n' cs = p :: qs ∧
      (∀ c ∈ b, isBlank c = true) ∧ SameLines (ps.map String.ofList) (qs.map String.ofList) := by
  induction cs with
  | nil =>
    obtain ⟨b, ps, hps⟩ := exists_pieces '\n' t
    have hblank : ∀ q ∈ b :: ps, ∀ c ∈ q, isBlank c = true := by
      rw [← hps]
      exact fun q hq c hc => ht c (mem_of_mem_pieces hq c hc)
    obtain ⟨hb, hblank⟩ := List.forall_mem_cons.mp hblank
    exact ⟨[], b, ps, [], hps, rfl, hb, sameLines_of_blank hblank⟩
  | cons c cs ih =>
    obtain ⟨p, b, ps, qs, hps, hqs, hb, hsame⟩ := ih
    by_cases hc : c = '\n'
    · subst hc
      refine ⟨[], [], pieces '\n' (cs ++ t), pieces '\n' cs, ?_, ?_, List.forall_mem_nil _, ?_⟩
      · exact pieces_sep (cs ++ t)
      · exact pieces_sep cs
      · rw [hps, hqs]
        exact .cons (by simpa using looksLike_append p hb) hsame
    · exact ⟨c :: p, b, ps, qs, pieces_cons_of_ne hc hps, pieces_cons_of_ne hc hqs, hb, hsame⟩

/-- Blanks after a text do not count. -/
theorem sameLines_append (cs : List Char) {t : List Char} (ht : ∀ c ∈ t, isBlank c = true) :
    SameLines (linesOf (cs ++ t)) (linesOf cs) := by
  obtain ⟨p, b, ps, qs, hps, hqs, hb, hsame⟩ := exists_pieces_append_blank cs ht
  rw [linesOf, linesOf, hps, hqs]
  exact .cons (by simpa using looksLike_append p hb) hsame

theorem ofNat_ne_lineFeed {v : Nat} (h : v ≠ 10) : Char.ofNat v ≠ '\n' := by
  intro heq
  have hnat : (Char.ofNat v).toNat = 10 := congrArg Char.toNat heq
  by_cases hvalid : v.isValidChar
  · rw [Char.ofNat, dif_pos hvalid] at hnat
    exact h hnat
  · rw [Char.ofNat, dif_neg hvalid] at hnat
    cases hnat

end Text

/-! ## Blank bytes -/

namespace Ast.Source

open Text (charOf)

/-- Is a byte a blank character of its own? -/
def isBlank (b : UInt8) : Bool := Text.isAscii b && Text.isBlank (charOf b)

theorem charOf_lineFeed : charOf lineFeed = '\n' := by decide

/-- Only a line feed ends a line. -/
theorem charOf_ne {b : UInt8} (h : b ≠ lineFeed) : charOf b ≠ '\n' :=
  Text.ofNat_ne_lineFeed fun hnat => h (UInt8.toNat_inj.mp hnat)

/-- Blanks before a text leave it with empty lines and spaces, of which the place behind them tells
how many there are. -/
theorem sameLines_before {before : Source} (hblank : ∀ b ∈ before, isBlank b = true)
    (rest : Source) (cs indent : List Char) {line line' column' : Nat}
    (hindent : ∀ c ∈ indent, Text.isBlank c = true) (hline : ∀ c ∈ indent, c ≠ '\n')
    (hplace : placeFrom line (indent.length + 1) (before ++ rest) before.length =
      (line', column')) :
    line ≤ line' ∧
      Text.SameLines (Text.linesOf (indent ++ before.map charOf ++ cs))
        (Text.linesOf (List.replicate (line' - line) '\n' ++ List.replicate (column' - 1) ' ' ++
          cs)) := by
  induction before generalizing line indent with
  | nil =>
    obtain ⟨rfl, rfl⟩ : line = line' ∧ indent.length + 1 = column' := by
      cases rest <;> simpa [placeFrom] using hplace
    obtain ⟨p, ps, hps⟩ := Text.exists_pieces '\n' cs
    have hspace : ∀ c ∈ List.replicate indent.length ' ', Text.isBlank c = true ∧ c ≠ '\n' := by
      intro c hc
      rw [List.eq_of_mem_replicate hc]
      decide
    have hsame := Text.LooksLike.of_indent p hindent (fun c hc => (hspace c hc).1) (by simp)
    refine ⟨Nat.le_refl _, ?_⟩
    simp only [List.map_nil, List.append_nil, Nat.sub_self, List.replicate_zero, List.nil_append,
      Nat.add_sub_cancel, Text.linesOf, Text.pieces_append hline hps,
      Text.pieces_append (fun c hc => (hspace c hc).2) hps]
    exact .cons (by simpa using hsame) (.refl _)
  | cons b before ih =>
    obtain ⟨hb, hbefore⟩ := List.forall_mem_cons.mp hblank
    rw [List.cons_append, List.length_cons, placeFrom] at hplace
    by_cases hfeed : b = lineFeed
    · -- The blanks up to here are a line of their own, which is blank on both sides.
      rw [if_pos hfeed] at hplace
      obtain ⟨hle, hsame⟩ := ih hbefore [] (List.forall_mem_nil _) (List.forall_mem_nil _) hplace
      have hcount : line' - line = line' - (line + 1) + 1 := by omega
      refine ⟨by omega, ?_⟩
      rw [List.map_cons, hfeed, charOf_lineFeed, List.append_assoc, List.cons_append,
        Text.linesOf, Text.pieces_append_sep hline, hcount, List.replicate_succ,
        List.cons_append, List.cons_append, Text.linesOf, Text.pieces_sep]
      exact .cons (.of_blank (by simpa using hindent) (by simp)) hsame
    · rw [if_neg hfeed] at hplace
      have hchar : Text.isBlank (charOf b) = true := (Bool.and_eq_true_iff.mp hb).2
      have hlength : (indent ++ [charOf b]).length = indent.length + 1 := by simp
      have hmore := ih hbefore (indent ++ [charOf b])
        (List.forall_mem_append.mpr ⟨hindent, by simpa using hchar⟩)
        (List.forall_mem_append.mpr ⟨hline, by simpa using charOf_ne hfeed⟩)
        (by rwa [hlength])
      simpa using hmore

end Ast.Source

/-! ## Roots of trees -/

namespace Ast

open Text (charOf)

/-- A node spans a source up to some place, as the root that a parser makes does: it begins with the
first token and ends with the last one, and what it leaves out of the source is blank. -/
structure Node.Covers (root : Node) (source : Source) (stop : Nat) : Prop where
  /-- It ends behind its start. -/
  ordered : root.tag.start ≤ stop
  /-- It ends in the source. -/
  bounded : stop ≤ source.length
  /-- It stands where its first byte does. -/
  place : source.placeAt root.tag.start = (root.line, root.column)
  /-- Its text is what lies between its ends. -/
  text : root.text = source.textBetween root.tag.start stop
  /-- All that is not in it is blank. -/
  blank : ∀ b ∈ source.take root.tag.start ++ source.drop stop, Source.isBlank b = true

variable {root : Node} {source : Source} {stop : Nat}

namespace Node.Covers

/-- A source is its root with blanks around it. -/
theorem decode_eq (h : root.Covers source stop) :
    Text.decode source = (source.take root.tag.start).map charOf ++ root.text.toList ++
      (source.drop stop).map charOf := by
  obtain ⟨hbefore, hafter⟩ := List.forall_mem_append.mp h.blank
  have hascii : ∀ b, Source.isBlank b = true → Text.isAscii b = true :=
    fun b hb => (Bool.and_eq_true_iff.mp hb).1
  have hsplit : source = source.take root.tag.start ++
      ((source.drop root.tag.start).take (stop - root.tag.start) ++ source.drop stop) := by
    have hdrop : (source.drop root.tag.start).drop (stop - root.tag.start) = source.drop stop := by
      rw [List.drop_drop, Nat.add_sub_cancel' h.ordered]
    rw [← hdrop, List.take_append_drop, List.take_append_drop]
  have hmiddle : Text.decode ((source.drop root.tag.start).take (stop - root.tag.start)) =
      root.text.toList := by
    rw [h.text, Source.textBetween, Text.decoded, String.toList_ofList]
  have hend := Text.decode_append_of_isAscii (fun b hb => hascii b (hafter b hb)) []
  rw [List.append_nil, Text.decode_nil, List.append_nil] at hend
  calc Text.decode source
    _ = (source.take root.tag.start).map charOf ++
        Text.decode ((source.drop root.tag.start).take (stop - root.tag.start) ++
          source.drop stop) := by
      rw [← Text.decode_append_of_isAscii fun b hb => hascii b (hbefore b hb), ← hsplit]
    _ = _ := by
      rw [Text.decode_append, hmiddle, hend, List.append_assoc]
      exact fun b hb => hascii b (hafter b (List.mem_of_mem_head? hb))

/-- The text of a tree looks like the text of the file. -/
theorem sameLines (h : root.Covers source stop) :
    Text.SameLines
      (Text.linesOf ((source.take root.tag.start).map charOf ++ root.text.toList))
      (Text.linesOf (List.replicate (root.line - 1) '\n' ++
        List.replicate (root.column - 1) ' ' ++ root.text.toList)) := by
  obtain ⟨hbefore, -⟩ := List.forall_mem_append.mp h.blank
  have hlength : (source.take root.tag.start).length = root.tag.start :=
    List.length_take_of_le (h.ordered.trans h.bounded)
  have hplace : Source.placeFrom 1 1 (source.take root.tag.start ++ source.drop root.tag.start)
      (source.take root.tag.start).length = (root.line, root.column) := by
    rw [List.take_append_drop, hlength]
    exact h.place
  exact (Source.sameLines_before hbefore _ root.text.toList [] (List.forall_mem_nil _)
    (List.forall_mem_nil _) hplace).2

end Node.Covers

end Ast

/-! ## Scans of the same file -/

namespace Scan

theorem tree_some (parse : Parser) (settings : Settings) (path : String) (tree : SyntaxTree)
    (text : String) :
    Scan.tree parse settings path tree (some text) =
      withTree parse settings path text tree.root := by
  rw [Scan.tree, withTree]
  rfl

theorem tree_none (parse : Parser) (settings : Settings) (path : String) (root : Node) :
    Scan.tree parse settings path ⟨root, true⟩ none =
      withTree parse settings path (String.ofList (List.replicate (root.line - 1) '\n' ++
        List.replicate (root.column - 1) ' ' ++ root.text.toList)) root := by
  rw [Scan.tree, withTree]
  rfl

/-- Texts with lines that look alike are scanned alike. -/
theorem withTree_looksLike (parse : Parser) (settings : Settings) (path : String) (root : Node)
    {cs cs' : List Char} (h : Text.SameLines (Text.linesOf cs) (Text.linesOf cs')) :
    withTree parse settings path (String.ofList cs) root =
      withTree parse settings path (String.ofList cs') root := by
  have hlines : ∀ cs, Text.lines (String.ofList cs) = Text.linesOf cs := by
    intro cs
    rw [Text.lines, Text.cut, String.toList_ofList, Text.linesOf]
  have hsame : (Document.ofText path (String.ofList cs)).LooksLike
      (.ofText path (String.ofList cs')) :=
    ⟨rfl, by rw [Document.ofText, Document.ofText, hlines, hlines]; exact h⟩
  rw [withTree, withTree, document_looksLike parse settings hsame]

/-- A tree is scanned without the text of the file as it is with it. -/
theorem tree_none_eq (parse : Parser) (settings : Settings) (path text : String) {root : Node}
    {stop : Nat} (h : root.Covers (Text.encoded text) stop) :
    Scan.tree parse settings path ⟨root, true⟩ none =
      withTree parse settings path text root := by
  have htext : text = String.ofList (((Text.encoded text).take root.tag.start).map Text.charOf ++
      root.text.toList ++ ((Text.encoded text).drop stop).map Text.charOf) := by
    rw [← h.decode_eq, Text.decode_encoded, String.ofList_toList]
  have hafter : ∀ c ∈ ((Text.encoded text).drop stop).map Text.charOf, Text.isBlank c = true := by
    intro c hc
    obtain ⟨b, hb, rfl⟩ := List.mem_map.mp hc
    exact (Bool.and_eq_true_iff.mp (h.blank b (List.mem_append_right _ hb))).2
  conv_rhs => rw [htext]
  rw [tree_none, withTree_looksLike parse settings path root (Text.sameLines_append _ hafter),
    withTree_looksLike parse settings path root h.sameLines]

/-- **However a scan is started, it says and finds the same.** A text, its bytes, a file that holds
them and the tree of the text, be the text given or taken from the tree, have one report. -/
theorem entry_points_agree (parse : Parser) (settings : Settings) (path text : String)
    (h : ∃ stop, (parse (Text.encoded text)).Covers (Text.encoded text) stop) :
    bytes parse settings path (Text.encoded text) = Scan.text parse settings path text ∧
      (∀ files : Files, ∀ p : Path, p.toString = path → files.read? p = some (Text.encoded text) →
        Command.scanFile parse files settings p = Scan.text parse settings path text) ∧
      tree parse settings path ⟨parse (Text.encoded text), true⟩ (some text) =
        Scan.text parse settings path text ∧
      tree parse settings path ⟨parse (Text.encoded text), true⟩ none =
        Scan.text parse settings path text := by
  obtain ⟨stop, hcovers⟩ := h
  have hbytes : bytes parse settings path (Text.encoded text) =
      Scan.text parse settings path text := by
    rw [bytes, Text.decoded_encoded, Scan.text]
  refine ⟨hbytes, ?_, ?_, ?_⟩
  · intro files p hpath hread
    rw [Command.scanFile, hread, hpath]
    exact hbytes
  · rw [tree_some, Scan.text]
  · rw [tree_none_eq parse settings path text hcovers, Scan.text]

/-- A text with blanks before a comment that declares a use, and a lookup two lines on. -/
def indentedText : String := "\n # i18n-tasks-use t('zz')\n\nt('a')"

/-- The tree of that text. -/
def indentedRoot : Node :=
  let source := Text.encoded indentedText
  Node.ofSpan source (.other "program") [] 2 34
    [Node.ofSpan source .comment [] 2 26 [], lookupAt source 28 1]

/-- The parser that knows the text and the expression in the comment. -/
def indentedParser : Parser :=
  Parses.parser [(Text.encoded indentedText, indentedRoot),
    (Text.encoded "t('zz')", lookupAlone "t('zz')")]

/-- The directory that holds the text. -/
def indentedFiles : Files := { entries := [(["a.rb"], .file (Text.encoded indentedText))] }

theorem entry_points_agree_indented :
    (Scan.text indentedParser {} "a.rb" indentedText).outcome.map
        (List.map fun o => (o.key, o.line, o.column, o.text)) =
      .ok [("zz", 4, 1, "t('a')"), ("a", 4, 1, "t('a')")] ∧
    (indentedParser (Text.encoded indentedText)).Covers (Text.encoded indentedText) 34 ∧
    Command.scanFile indentedParser indentedFiles {} (.ofString "a.rb") =
      Scan.text indentedParser {} "a.rb" indentedText ∧
    tree indentedParser {} "a.rb" ⟨indentedRoot, true⟩ none =
      Scan.text indentedParser {} "a.rb" indentedText := by
  have hparse : indentedParser (Text.encoded indentedText) = indentedRoot := by
    rw [indentedParser, Parses.parser, List.lookup_cons_self, Option.getD_some]
  have hcovers : indentedRoot.Covers (Text.encoded indentedText) 34 :=
    ⟨by decide, by decide +kernel, rfl, rfl, by decide +kernel⟩
  rw [← hparse] at hcovers
  obtain ⟨-, hfile, -, hnone⟩ :=
    entry_points_agree indentedParser {} "a.rb" indentedText ⟨34, hcovers⟩
  rw [hparse] at hnone
  exact ⟨by decide +kernel, hcovers,
    hfile indentedFiles (.ofString "a.rb") (by decide +kernel) (by decide +kernel), hnone⟩

end Scan

end LocaleKeys

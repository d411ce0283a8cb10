import LocaleKeys.Proofs.EntryPoints
import LocaleKeys.Proofs.StrictMode
import Mathlib.Data.List.DropRight

/-!
# Proofs: lines of bytes and lines of text

The line of a node is counted in the bytes of a file, and the text of that line is looked up in what
the bytes spell. For bytes that are no text the two might drift apart. They do not: a line feed is
never a part of another character, and nothing else is read as one, so that decoding the lines of
bytes gives the lines of the text.
-/

namespace LocaleKeys

open Ast

/-! ## Line feeds and other characters -/

namespace Text

theorem le_foldl_tails (lead : Nat) (tails : List UInt8) :
    lead ≤ tails.foldl (fun n b => n * 64 + (b.toNat - 0x80)) lead := by
  induction tails generalizing lead with
  | nil => exact Nat.le_refl _
  | cons b tails ih =>
    have hstep : lead ≤ lead * 64 + (b.toNat - 0x80) := by omega
    rw [List.foldl_cons]
    exact hstep.trans (ih (lead * 64 + (b.toNat - 0x80)))

/-- The first two bytes of a character of several bytes put its value beyond that of a line feed. -/
theorem ten_lt_leadValue {a b : UInt8} (hcount : tailCount a ≠ 0) (hb : isSecond a b = true) :
    10 < leadValue a * 64 + (b.toNat - 0x80) := by
  simp only [tailCount, leadValue, isSecond, isTail, UInt8.le_iff_toNat_le, ← UInt8.toNat_inj,
    UInt8.reduceToNat, Bool.and_eq_true, decide_eq_true_eq] at *
  grind

theorem assemble_ne_lineFeed {a b : UInt8} (bs : List UInt8) (hcount : tailCount a ≠ 0)
    (hb : isSecond a b = true) : assemble (leadValue a) (b :: bs) ≠ '\n' := by
  have hlead := ten_lt_leadValue hcount hb
  have hvalue := le_foldl_tails (leadValue a * 64 + (b.toNat - 0x80)) bs
  exact ofNat_ne_lineFeed (by rw [List.foldl_cons]; omega)

/-- The bytes after the first one begin with one that may be second. -/
theorem isSecond_of_tailsOf {a b : UInt8} {r bs : List UInt8} (h : tailsOf a r = b :: bs) :
    isSecond a b = true := by
  rw [tailsOf] at h
  split at h
  · cases h
  · split at h
    · rename_i hsecond
      rwa [(List.cons.inj h).1] at hsecond
    · cases h

/-- Only a line feed is read as one. -/
theorem firstChar_ne_lineFeed {a : UInt8} (h : a ≠ Source.lineFeed) (r : List UInt8) :
    firstChar a r ≠ '\n' := by
  rw [firstChar]
  split
  · exact Source.charOf_ne h
  · split
    · rename_i htails
      simp only [Bool.and_eq_true, decide_eq_true_eq] at htails
      obtain ⟨hcount, hlength⟩ := htails
      cases hr : tailsOf a r with
      | nil =>
        rw [hr] at hlength
        exact absurd hlength.symm hcount
      | cons b bs => exact assemble_ne_lineFeed bs hcount (isSecond_of_tailsOf hr)
    · decide

theorem ne_lineFeed_of_mem_decode {xs : List UInt8} (h : ∀ b ∈ xs, b ≠ Source.lineFeed) :
    ∀ c ∈ decode xs, c ≠ '\n' := by
  induction hlength : xs.length using Nat.strongRecOn generalizing xs with
  | ind n ih =>
    cases xs with
    | nil => simp
    | cons a r =>
      subst hlength
      obtain ⟨ha, hr⟩ := List.forall_mem_cons.mp h
      have hshorter : (r.drop (tailsOf a r).length).length < (a :: r).length := by
        rw [List.length_drop, List.length_cons]
        omega
      rw [decode_cons]
      refine List.forall_mem_cons.mpr ⟨firstChar_ne_lineFeed ha r, ?_⟩
      exact ih _ hshorter (fun b hb => hr b (List.mem_of_mem_drop hb)) rfl

/-- A line feed ends whatever character the bytes before it have begun. -/
theorem decode_append_lineFeed (xs ys : List UInt8) :
    decode (xs ++ Source.lineFeed :: ys) = decode xs ++ '\n' :: decode ys := by
  have hascii : isAscii Source.lineFeed = true := by decide
  have hhead : ∀ b ∈ (Source.lineFeed :: ys).head?, isAscii b = true := by
    rintro b ⟨⟩
    exact hascii
  have hfeed := decode_append_of_isAscii (List.forall_mem_singleton.mpr hascii) ys
  rw [List.map_singleton, Source.charOf_lineFeed] at hfeed
  rw [decode_append xs hhead]
  exact congrArg _ hfeed

/-! ## Lines one after another -/

section Pieces

variable {α : Type} [DecidableEq α] {sep : α}

/-- Induction along the pieces of a sequence. -/
theorem induct_pieces {motive : List α → Prop} (sep : α)
    (last : ∀ as, (∀ a ∈ as, a ≠ sep) → motive as)
    (cut : ∀ as bs, (∀ a ∈ as, a ≠ sep) → motive bs → motive (as ++ sep :: bs))
    (as : List α) : motive as := by
  -- what stands before is a part of the first piece
  suffices h : ∀ before, (∀ a ∈ before, a ≠ sep) → motive (before ++ as) from
    h [] (List.forall_mem_nil _)
  induction as with
  | nil =>
    intro before hbefore
    rw [List.append_nil]
    exact last before hbefore
  | cons a as ih =>
    intro before hbefore
    by_cases ha : a = sep
    · rw [ha]
      exact cut before as hbefore (ih [] (List.forall_mem_nil _))
    · have hmore := ih (before ++ [a])
        (List.forall_mem_append.mpr ⟨hbefore, List.forall_mem_singleton.mpr ha⟩)
      rwa [List.append_assoc, List.singleton_append] at hmore

theorem pieces_of_not_mem {as : List α} (h : ∀ a ∈ as, a ≠ sep) : pieces sep as = [as] := by
  have hpieces : pieces sep (as ++ []) = [as ++ []] := pieces_append h rfl
  rwa [List.append_nil] at hpieces

omit [DecidableEq α] in
theorem rtakeWhile_append_cons {p : α → Bool} {y : α} (h : ¬ p y = true) (xs zs : List α) :
    (xs ++ y :: zs).rtakeWhile p = zs.rtakeWhile p := by
  induction zs using List.reverseRecOn with
  | nil => rw [List.rtakeWhile_concat_neg p xs y h, List.rtakeWhile_nil]
  | append_singleton zs z ih =>
    rw [← List.cons_append, ← List.append_assoc, List.rtakeWhile_concat, List.rtakeWhile_concat, ih]

end Pieces

/-- The lines of a text are the lines of its bytes. -/
theorem lines_decoded (source : Source) :
    lines (decoded source) = (pieces Source.lineFeed source).map decoded := by
  rw [lines, cut, decoded, String.toList_ofList]
  induction source using induct_pieces Source.lineFeed with
  | last as has =>
    rw [pieces_of_not_mem has, pieces_of_not_mem (ne_lineFeed_of_mem_decode has)]
    rfl
  | cut as bs has ih =>
    rw [decode_append_lineFeed, pieces_append_sep (ne_lineFeed_of_mem_decode has),
      pieces_append_sep has, List.map_cons, List.map_cons, ih]
    rfl

end Text

/-! ## The line at a place -/

namespace Ast.Source

/-- The line of bytes in which an offset lies: what precedes it since the last line feed, and what
follows it up to the next one. -/
def lineAt (source : Source) (offset : Nat) : Source :=
  (source.take offset).rtakeWhile (· ≠ lineFeed) ++
    (source.drop offset).takeWhile (· ≠ lineFeed)

/-- A line has as many line feeds before it as its number says. -/
theorem placeFrom_fst (line column : Nat) (source : Source) (offset : Nat) :
    (placeFrom line column source offset).1 = line + (source.take offset).count lineFeed := by
  induction source generalizing line column offset with
  | nil => simp [placeFrom]
  | cons b source ih =>
    cases offset with
    | zero => rfl
    | succ offset =>
      rw [placeFrom, List.take_succ_cons, List.count_cons]
      by_cases hb : b = lineFeed
      · rw [if_pos hb, ih, hb, beq_self_eq_true, if_pos rfl]
        omega
      · rw [if_neg hb, ih, beq_eq_false_iff_ne.mpr hb]
        rfl

theorem count_lineFeed_eq_zero {xs : Source} (h : ∀ b ∈ xs, b ≠ lineFeed) :
    xs.count lineFeed = 0 :=
  List.count_eq_zero.mpr fun hmem => h lineFeed hmem rfl

/-- The line in which an offset lies is the one after the line feeds before it. -/
theorem getElem?_pieces (source : Source) (offset : Nat) :
    (Text.pieces lineFeed source)[(source.take offset).count lineFeed]? =
      some (source.lineAt offset) := by
  induction source using Text.induct_pieces lineFeed generalizing offset with
  | last as has =>
    have htake : ∀ b ∈ as.take offset, b ≠ lineFeed := fun b hb => has b (List.mem_of_mem_take hb)
    have hdrop : ∀ b ∈ as.drop offset, b ≠ lineFeed := fun b hb => has b (List.mem_of_mem_drop hb)
    have hline : lineAt as offset = as := by
      rw [lineAt, List.rtakeWhile_eq_self_iff.mpr (by simpa using htake),
        List.takeWhile_eq_self_iff.mpr (by simpa using hdrop), List.take_append_drop]
    rw [Text.pieces_of_not_mem has, count_lineFeed_eq_zero htake, hline]
    rfl
  | cut as bs has ih =>
    rw [Text.pieces_append_sep has]
    by_cases hoffset : offset ≤ as.length
    · -- the offset lies in the first line
      have htake : ∀ b ∈ as.take offset, b ≠ lineFeed :=
        fun b hb => has b (List.mem_of_mem_take hb)
      have hdrop : ∀ b ∈ as.drop offset, b ≠ lineFeed :=
        fun b hb => has b (List.mem_of_mem_drop hb)
      have hline : lineAt (as ++ lineFeed :: bs) offset = as := by
        rw [lineAt, List.take_append_of_le_length hoffset, List.drop_append_of_le_length hoffset,
          List.rtakeWhile_eq_self_iff.mpr (by simpa using htake),
          List.takeWhile_append_of_pos (by simpa using hdrop),
          List.takeWhile_cons_of_neg (by simp), List.append_nil, List.take_append_drop]
      rw [hline, List.take_append_of_le_length hoffset, count_lineFeed_eq_zero htake]
      rfl
    · obtain ⟨k, rfl⟩ : ∃ k, offset = as.length + (k + 1) := ⟨offset - as.length - 1, by omega⟩
      have hline : lineAt (as ++ lineFeed :: bs) (as.length + (k + 1)) = lineAt bs k := by
        rw [lineAt, lineAt, List.take_length_add_append, List.drop_length_add_append,
          List.take_succ_cons, List.drop_succ_cons, Text.rtakeWhile_append_cons (by simp)]
      rw [hline, List.take_length_add_append, List.take_succ_cons, List.count_append,
        count_lineFeed_eq_zero has, Nat.zero_add, List.count_cons_self, List.getElem?_cons_succ]
      exact ih k

end Ast.Source

/-! ## Sites and their lines -/

/-- The line of a call site. -/
def Site.line : Site → Nat
  | .lookup l => l.line
  | .helper h => h.line

/-- A use of a key at a call site. -/
def Site.occurrence (d : Document) (key : String) : Site → Occurrence
  | .lookup l => l.occurrence d key
  | .helper h => h.occurrence d key

theorem Site.line_occurrence (d : Document) (key : String) (s : Site) :
    (s.occurrence d key).line = s.line := by
  cases s <;> rfl

theorem Site.text_occurrence (d : Document) (key : String) (s : Site) :
    (s.occurrence d key).text = d.lineText s.line := by
  cases s <;> rfl

theorem Site.line_of_mem_ofCall {settings : Settings} {call : Node} {s : Site}
    (h : s ∈ Site.ofCall settings call) : s.line = call.line := by
  rw [Site.ofCall, List.mem_append] at h
  rcases h with h | h
  · obtain ⟨l, hl, rfl⟩ := Option.map_eq_some_iff.mp (Option.mem_toList.mp h)
    obtain ⟨form, -, rfl⟩ := Option.map_eq_some_iff.mp hl
    rfl
  · obtain ⟨x, hx, rfl⟩ := Option.map_eq_some_iff.mp (Option.mem_toList.mp h)
    rw [Helper.ofCall?] at hx
    split at hx
    · dsimp only at hx
      split at hx
      · cases hx
        rfl
      · split at hx
        · obtain ⟨model, -, rfl⟩ := Option.map_eq_some_iff.mp hx
          rfl
        · cases hx
    · cases hx

theorem Helper.eq_occurrence_of_mem {x : Helper} {d : Document} {o : Occurrence}
    (h : o ∈ (x.verdict d).occurrences) : o = x.occurrence d o.key := by
  rw [verdict] at h
  split at h
  · rw [List.mem_singleton.mp h]
    rfl
  · split at h
    · split at h
      · cases h
      · rw [List.mem_singleton.mp h]
        rfl
    · cases h

namespace Resolve

variable {settings : Settings} {d : Document} {index : Index} {p : Placed} {verdict : Verdict}

theorem eq_occurrence_of_relative {l : Lookup} {key : String}
    (h : relative settings d index p l key = .ok verdict) :
    ∀ o ∈ verdict.occurrences, o = l.occurrence d o.key := by
  rw [relative] at h
  split at h
  · cases h
    exact List.forall_mem_nil _
  · split at h
    · cases h
      exact List.forall_mem_nil _
    · split at h
      · cases h
      · cases h
        exact List.forall_mem_nil _
      · cases h
        intro o ho
        obtain ⟨action, -, rfl⟩ := List.mem_map.mp ho
        rfl

theorem eq_occurrence_of_site (h : site settings d index p = .ok verdict) :
    ∀ o ∈ verdict.occurrences, o = p.site.occurrence d o.key := by
  rw [site] at h
  cases hsite : p.site with
  | helper x =>
    rw [hsite] at h
    dsimp only at h
    split at h
    · cases h
      exact List.forall_mem_nil _
    · cases h
      exact fun o ho => Helper.eq_occurrence_of_mem ho
  | lookup l =>
    rw [hsite] at h
    dsimp only at h
    split at h
    · cases h
      exact List.forall_mem_nil _
    · cases h
      exact List.forall_mem_singleton.mpr rfl
    · split at h
      · cases h
        exact List.forall_mem_nil _
      · exact eq_occurrence_of_relative h

/-- All that is found at a call site stands there. -/
theorem eq_occurrence_of_mem {o : Occurrence}
    (h : o ∈ (verdictAt settings d index p).occurrences) : o = p.site.occurrence d o.key := by
  rw [verdictAt] at h
  cases hsite : site settings d index p with
  | ok verdict =>
    rw [hsite] at h
    exact eq_occurrence_of_site hsite o h
  | error cycle =>
    rw [hsite] at h
    cases h

end Resolve

theorem Outline.Trail.holds_of_mem_calls {settings : Settings} {root : Node} {num : Trail → Nat}
    {t : Trail} {c : Node × Placed} (ht : t ∈ walk settings root)
    (hc : c ∈ calls settings num t) : root.Holds c.1 := by
  cases t with
  | nil => cases hc
  | cons v around =>
    obtain ⟨p, -, rfl⟩ := List.mem_map.mp hc
    exact (Reached.of_mem_walk ht).holds v List.mem_cons_self

namespace Scan

/-- The line of a node in the bytes of a file is a line of its text, and the trimmed text of that
line is what its bytes spell. -/
theorem lineText_ofText (path : String) {source : Source} {offset line : Nat}
    (h : (source.placeAt offset).1 = line) :
    let d := Document.ofText path (Text.decoded source)
    (1 ≤ line ∧ line ≤ d.lines.length) ∧
      d.lineText line = Text.trimmed (Text.decoded (source.lineAt offset)) := by
  intro d
  have hlines : d.lines = (Text.pieces Source.lineFeed source).map Text.decoded :=
    Text.lines_decoded source
  have hline : line = 1 + (source.take offset).count Source.lineFeed := by
    rw [← h, Source.placeAt, Source.placeFrom_fst]
  have hget : d.lines[line - 1]? = some (Text.decoded (source.lineAt offset)) := by
    rw [hlines, List.getElem?_map, hline, Nat.add_sub_cancel_left, Source.getElem?_pieces]
    rfl
  obtain ⟨hlt, -⟩ := List.getElem?_eq_some_iff.mp hget
  refine ⟨⟨by omega, by omega⟩, ?_⟩
  rw [Document.lineText, if_neg (by omega), hget, Option.getD_some]

/-- **Lines of bytes are lines of text.** Whatever the bytes of a file are, its text has the lines
that its bytes have, each decoded for itself. So a call that stands where its first byte does is
reported with the number of the line of bytes in which it lies, and with what that line spells. -/
theorem bytes_line_by_line (parse : Parser) (settings : Settings) (path : String)
    (source : Source) :
    let d := Document.ofText path (Text.decoded source)
    let calls := Outline.Trail.fileCalls settings (parse source)
    d.lines = (Text.pieces Source.lineFeed source).map Text.decoded ∧
    (Index.ofTree settings (parse source)).sites = calls.map (·.2) ∧
    (∀ c ∈ calls, (parse source).Holds c.1 ∧ c.2.site ∈ Site.ofCall settings c.1 ∧
      ((source.placeAt c.1.tag.start).1 = c.1.line →
        (1 ≤ c.2.site.line ∧ c.2.site.line ≤ d.lines.length) ∧
        d.lineText c.2.site.line =
          Text.trimmed (Text.decoded (source.lineAt c.1.tag.start)))) ∧
    (∀ u ∈ codeUses settings d (parse source), (parse source).Holds u.call ∧
      ((source.placeAt u.call.tag.start).1 = u.call.line →
        u.occurrence.line = u.call.line ∧
        u.occurrence.text = Text.trimmed (Text.decoded (source.lineAt u.call.tag.start)))) ∧
    ∀ occurrences, (bytes parse settings path source).outcome = .ok occurrences →
      occurrences = Hint.occurrences parse settings d ++
        (codeUses settings d (parse source)).map (·.occurrence) := by
  intro d calls
  have hcall : ∀ c ∈ calls, (parse source).Holds c.1 ∧ c.2.site ∈ Site.ofCall settings c.1 := by
    intro c hc
    obtain ⟨t, ht, hc⟩ := List.mem_flatMap.mp hc
    exact ⟨Outline.Trail.holds_of_mem_calls ht hc, Outline.Trail.site_mem_ofCall hc⟩
  refine ⟨Text.lines_decoded source, (Outline.Trail.map_snd_fileCalls settings _).symm, ?_, ?_, ?_⟩
  · intro c hc
    obtain ⟨hholds, hsite⟩ := hcall c hc
    refine ⟨hholds, hsite, fun hplace => ?_⟩
    rw [← Site.line_of_mem_ofCall hsite] at hplace
    exact lineText_ofText path hplace
  · intro u hu
    obtain ⟨c, hc, hu⟩ := List.mem_flatMap.mp hu
    obtain ⟨o, ho, rfl⟩ := List.mem_map.mp hu
    obtain ⟨hholds, hsite⟩ := hcall c hc
    refine ⟨hholds, fun hplace => ?_⟩
    dsimp only at hplace ⊢
    rw [Resolve.eq_occurrence_of_mem ho, Site.line_occurrence, Site.text_occurrence,
      Site.line_of_mem_ofCall hsite]
    exact ⟨rfl, (lineText_ofText path hplace).2⟩
  · intro occurrences hok
    rw [bytes, withTree] at hok
    split at hok
    · cases hok
    · rw [document_outcome_uses] at hok
      split at hok
      · cases hok
      · rw [← Except.ok.inj hok, uses, List.map_append, map_occurrence_commentUses]

/-- A lookup between two comments that end with a character cut off by a line feed:
`# ` and two bytes of three, ` t('a') # ` and one byte of four. -/
def brokenSource : Source :=
  [0x23, 0x20, 0xe2, 0x82, 0x0a, 0x20, 0x74, 0x28, 0x27, 0x61, 0x27, 0x29, 0x20, 0x23, 0x20, 0xf0,
    0x0a]

/-- The tree of that file. -/
def brokenRoot : Node :=
  let node := Node.ofSpan brokenSource
  node (.other "program") [] 0 17
    [node .comment [] 0 4 [], lookupAt brokenSource 6 1, node .comment [] 13 16 []]

theorem bytes_line_by_line_broken :
    let parse : Parser := fun _ => brokenRoot
    let d := Document.ofText "a.rb" (Text.decoded brokenSource)
    (codeUses {} d (parse brokenSource)).map (·.occurrence.key) = ["a"] ∧
    ∀ u ∈ codeUses {} d (parse brokenSource),
      (brokenSource.placeAt u.call.tag.start).1 = u.call.line ∧ u.occurrence.line = 2 ∧
      u.occurrence.text = Text.trimmed (Text.decoded
        [0x20, 0x74, 0x28, 0x27, 0x61, 0x27, 0x29, 0x20, 0x23, 0x20, 0xf0]) := by
  intro parse d
  have hcalls : (codeUses {} d brokenRoot).map (fun u => (u.occurrence.key, u.call.tag.start,
      u.call.line)) = [("a", 6, 2)] := by
    decide +kernel
  constructor
  · simpa [Function.comp_def] using congrArg (List.map Prod.fst) hcalls
  · intro u hu
    obtain ⟨-, htext⟩ := (bytes_line_by_line parse {} "a.rb" brokenSource).2.2.2.1 u hu
    have hcall : (u.occurrence.key, u.call.tag.start, u.call.line) ∈ [("a", 6, 2)] :=
      hcalls ▸ List.mem_map_of_mem hu
    simp only [List.mem_singleton, Prod.mk.injEq] at hcall
    obtain ⟨-, hstart, hline⟩ := hcall
    have hplace : (brokenSource.placeAt u.call.tag.start).1 = u.call.line := by
      rw [hstart, hline]
      decide
    obtain ⟨hsame, hspelled⟩ := htext hplace
    have hbytes : brokenSource.lineAt 6 =
        [0x20, 0x74, 0x28, 0x27, 0x61, 0x27, 0x29, 0x20, 0x23, 0x20, 0xf0] := by
      decide
    rw [hstart, hbytes] at hspelled
    exact ⟨hplace, hsame.trans hline, hspelled⟩

end Scan

end LocaleKeys

import LocaleKeys.Scan
import Mathlib.Data.List.DropRight
import Mathlib.Data.List.Forall2

/-!
# Proofs: lines

What a scan sees of the lines of a file: the text of each without the blanks around it, and how far
it is indented if there is any. Files that agree in that are scanned alike, also if one of them goes
on with blank lines.
-/

namespace LocaleKeys

/-! ## Lines that look alike -/

namespace Text

/-- Two lines have the same text, with as many blanks before it. -/
structure LooksLike (a b : List Char) : Prop where
  /-- They have the same text. -/
  text : trim a = trim b
  /-- Where there is a text, it is indented alike. -/
  indent : trim a ≠ [] → (a.takeWhile isBlank).length = (b.takeWhile isBlank).length

theorem LooksLike.refl (a : List Char) : LooksLike a a := ⟨rfl, fun _ => rfl⟩

theorem trim_eq_nil_iff {a : List Char} : trim a = [] ↔ ∀ c ∈ a, isBlank c = true := by
  have htrim : trim a = (a.dropWhile isBlank).rdropWhile isBlank := rfl
  rw [htrim, List.rdropWhile_eq_nil_iff, ← List.dropWhile_eq_nil_iff (l := a)]
  constructor
  · intro h
    by_contra hne
    have hhead := List.head_dropWhile_not isBlank hne
    rw [h _ (List.head_mem hne)] at hhead
    cases hhead
  · intro h
    rw [h]
    exact List.forall_mem_nil _

theorem trimEnd_append {t : List Char} (a : List Char) (ht : ∀ c ∈ t, isBlank c = true) :
    trimEnd (a ++ t) = trimEnd a := by
  rw [trimEnd, List.reverse_append, List.dropWhile_append_of_pos (by simpa using ht), trimEnd]

/-- Blanks after a line do not count. -/
theorem looksLike_append {t : List Char} (a : List Char) (ht : ∀ c ∈ t, isBlank c = true) :
    LooksLike (a ++ t) a := by
  by_cases ha : ∀ c ∈ a, isBlank c = true
  · have hall : ∀ c ∈ a ++ t, isBlank c = true := List.forall_mem_append.mpr ⟨ha, ht⟩
    have htrim := trim_eq_nil_iff.mpr hall
    exact ⟨htrim.trans (trim_eq_nil_iff.mpr ha).symm, fun h => absurd htrim h⟩
  · have hstart : trimStart (a ++ t) = trimStart a ++ t := by
      have hne : a.dropWhile isBlank ≠ [] := fun h => ha (List.dropWhile_eq_nil_iff.mp h)
      rw [trimStart, List.dropWhile_append, if_neg (by simpa using hne), trimStart]
    refine ⟨by rw [trim, hstart, trimEnd_append _ ht, trim], fun _ => ?_⟩
    have hne : (a.takeWhile isBlank).length ≠ a.length := fun h =>
      ha (List.takeWhile_eq_self_iff.mp ((List.takeWhile_prefix isBlank).eq_of_length h))
    rw [List.takeWhile_append, if_neg hne]

/-- Blanks before a line may be exchanged for other ones. -/
theorem LooksLike.of_indent {p q : List Char} (a : List Char) (hp : ∀ c ∈ p, isBlank c = true)
    (hq : ∀ c ∈ q, isBlank c = true) (hlength : p.length = q.length) :
    LooksLike (p ++ a) (q ++ a) where
  text := by
    rw [trim, trim, trimStart, trimStart, List.dropWhile_append_of_pos hp,
      List.dropWhile_append_of_pos hq]
  indent _ := by
    rw [List.takeWhile_append_of_pos hp, List.takeWhile_append_of_pos hq, List.length_append,
      List.length_append, hlength]

theorem LooksLike.of_blank {a b : List Char} (ha : ∀ c ∈ a, isBlank c = true)
    (hb : ∀ c ∈ b, isBlank c = true) : LooksLike a b :=
  ⟨(trim_eq_nil_iff.mpr ha).trans (trim_eq_nil_iff.mpr hb).symm,
    fun h => absurd (trim_eq_nil_iff.mpr ha) h⟩

/-- Lines look alike one by one, and where the first list is longer, it goes on with blank lines. -/
inductive SameLines : List String → List String → Prop where
  /-- There are no lines. -/
  | nil : SameLines [] []
  /-- There is one line more in both lists. -/
  | cons {a b : String} {as bs : List String} (h : LooksLike a.toList b.toList)
      (hs : SameLines as bs) : SameLines (a :: as) (b :: bs)
  /-- There is a blank line more in the first list. -/
  | blank {a : String} {as : List String} (h : ∀ c ∈ a.toList, isBlank c = true)
      (hs : SameLines as []) : SameLines (a :: as) []

theorem SameLines.refl (as : List String) : SameLines as as := by
  induction as with
  | nil => exact .nil
  | cons a as ih => exact .cons (.refl _) ih

theorem trimmed_eq {a b : String} (h : LooksLike a.toList b.toList) : trimmed a = trimmed b :=
  congrArg String.ofList h.text

theorem SameLines.trimmed_getElem? {as bs : List String} (h : SameLines as bs) (i : Nat) :
    trimmed (as[i]?.getD "") = trimmed (bs[i]?.getD "") := by
  induction h generalizing i with
  | nil => rfl
  | cons h _ ih =>
    cases i with
    | zero => exact trimmed_eq h
    | succ i => simpa using ih i
  | @blank a as h _ ih =>
    cases i with
    | zero => exact trimmed_eq (b := "") (.of_blank h (by simp))
    | succ i => simpa using ih i

end Text

/-! ## Files that look alike -/

/-- Two files have the same path and lines that look alike. -/
structure Document.LooksLike (d e : Document) : Prop where
  /-- The paths are the same. -/
  path : d.path = e.path
  /-- The lines look alike. -/
  lines : Text.SameLines d.lines e.lines

theorem Document.LooksLike.lineText {d e : Document} (h : d.LooksLike e) (n : Nat) :
    d.lineText n = e.lineText n := by
  rw [Document.lineText, Document.lineText, h.lines.trimmed_getElem?]

namespace Resolve

variable {settings : Settings} {d e : Document} {index : Index}

theorem site_looksLike (h : d.LooksLike e) (p : Placed) :
    site settings d index p = site settings e index p := by
  have hlookup : ∀ l : Lookup, l.occurrence d = l.occurrence e := by
    intro l
    funext key
    rw [Lookup.occurrence, Lookup.occurrence, h.path, h.lineText]
  have hdrop : ∀ l : Lookup, l.drop d = l.drop e := by
    intro l
    funext reason
    rw [Lookup.drop, Lookup.drop, h.path]
  have hhelper : ∀ x : Helper, x.verdict d = x.verdict e := by
    intro x
    have hoccurrence : x.occurrence d = x.occurrence e := by
      funext key
      rw [Helper.occurrence, Helper.occurrence, h.path, h.lineText]
    rw [Helper.verdict, Helper.verdict, hoccurrence, h.path]
  simp only [site, relative, hlookup, hdrop, hhelper, h.path]

theorem all_looksLike (h : d.LooksLike e) : all settings d index = all settings e index := by
  have hsites : ∀ ps, sites settings d index ps = sites settings e index ps := by
    intro ps
    induction ps with
    | nil => rfl
    | cons p ps ih => rw [sites, sites, site_looksLike h, ih]
  simp only [all, hsites, h.path]

end Resolve

namespace Hint

open Ast

theorem lineKind_looksLike {a b : String} (h : Text.LooksLike a.toList b.toList) :
    lineKind a = lineKind b := by
  rw [lineKind, lineKind, h.text]

theorem lineKind_eq_blank_iff {a : String} :
    lineKind a = .blank ↔ ∀ c ∈ a.toList, Text.isBlank c = true := by
  rw [← Text.trim_eq_nil_iff, lineKind]
  split <;> simp_all

theorem ofLine_looksLike (parse : Parser) (settings : Settings) (path : String) (number : Nat)
    {a b : String} (h : Text.LooksLike a.toList b.toList) :
    ofLine parse settings path number a = ofLine parse settings path number b := by
  rw [ofLine, ofLine, lineKind_looksLike h, Text.trimmed_eq h]

/-- Two lines are the same place for a hint. -/
def SamePlace (path : String) (a b : NumberedLine) : Prop :=
  ∀ h : Hint, h.occurrence path a = h.occurrence path b

theorem SamePlace.of_looksLike (path : String) {number : Nat} {a b : String}
    (h : Text.LooksLike a.toList b.toList) (ha : lineKind a ≠ .blank) :
    SamePlace path ⟨number, a⟩ ⟨number, b⟩ := by
  intro hint
  have htext : Text.trim a.toList ≠ [] := fun h' =>
    ha (lineKind_eq_blank_iff.mpr (Text.trim_eq_nil_iff.mp h'))
  rw [occurrence, occurrence, indentation, indentation, h.indent htext, Text.trimmed_eq h]

/-- Lines with their numbers, from a number on. -/
def numberedFrom (number : Nat) (lines : List String) : List NumberedLine :=
  (lines.zipIdx number).map fun (text, n) => ⟨n, text⟩

theorem numberedFrom_cons (number : Nat) (a : String) (as : List String) :
    numberedFrom number (a :: as) = ⟨number, a⟩ :: numberedFrom (number + 1) as := rfl

theorem leftOver_congr {path : String} {last last' : Option NumberedLine}
    {waiting waiting' : Waiting} (hlast : Option.Rel (SamePlace path) last last')
    (hwaiting : List.Forall₂ (fun x y => SamePlace path x.1 y.1 ∧ x.2 = y.2) waiting waiting') :
    leftOver path last waiting = leftOver path last' waiting' := by
  rw [leftOver, leftOver, ← List.forall₂_eq_eq_eq, List.forall₂_map_left_iff,
    List.forall₂_map_right_iff]
  refine hwaiting.imp ?_
  rintro ⟨own, hint⟩ ⟨own', _⟩ ⟨hplace, rfl⟩
  cases hlast with
  | none => exact hplace hint
  | some h => exact h hint

/-- Hints are attached alike in lines that look alike. -/
theorem attach_looksLike {path : String} {found : NumberedLine → List Hint}
    (hfound : ∀ n a b, Text.LooksLike a.toList b.toList → found ⟨n, a⟩ = found ⟨n, b⟩)
    {as bs : List String} (h : Text.SameLines as bs) (number : Nat)
    {last last' : Option NumberedLine} {waiting waiting' : Waiting}
    (hlast : Option.Rel (SamePlace path) last last')
    (hwaiting : List.Forall₂ (fun x y => SamePlace path x.1 y.1 ∧ x.2 = y.2) waiting waiting') :
    attach path found waiting last (numberedFrom number as) =
      attach path found waiting' last' (numberedFrom number bs) := by
  induction h generalizing number last last' waiting waiting' with
  | nil => exact leftOver_congr hlast hwaiting
  | @cons a b as bs h _ ih =>
    have hkind := lineKind_looksLike h
    rw [numberedFrom_cons, numberedFrom_cons, attach, attach]
    dsimp only
    rw [← hkind]
    cases hline : lineKind a with
    | blank => exact ih (number + 1) hlast hwaiting
    | comment =>
      refine ih (number + 1) hlast (List.rel_append hwaiting ?_)
      rw [hfound number a b h, List.forall₂_map_left_iff, List.forall₂_map_right_iff]
      exact List.forall₂_same.mpr fun x _ => ⟨.of_looksLike path h (by simp [hline]), rfl⟩
    | code =>
      have hplace : SamePlace path ⟨number, a⟩ ⟨number, b⟩ :=
        .of_looksLike path h (by simp [hline])
      exact congrArg₂ (· ++ ·) (leftOver_congr (.some hplace) hwaiting)
        (ih (number + 1) (.some hplace) .nil)
  | @blank a as h _ ih =>
    rw [numberedFrom_cons, attach]
    dsimp only
    rw [lineKind_eq_blank_iff.mpr h]
    exact ih (number + 1) hlast hwaiting

theorem events_looksLike (parse : Parser) (settings : Settings) {d e : Document}
    (h : d.LooksLike e) : events parse settings d = events parse settings e := by
  have hlines : ∀ {as bs : List String}, Text.SameLines as bs → ∀ number,
      ((numberedFrom number as).flatMap fun line =>
        eventsOf (ofLine parse settings e.path line.number line.text)) =
      (numberedFrom number bs).flatMap fun line =>
        eventsOf (ofLine parse settings e.path line.number line.text) := by
    intro as bs hs
    induction hs with
    | nil => exact fun _ => rfl
    | cons h _ ih =>
      intro number
      rw [numberedFrom_cons, numberedFrom_cons, List.flatMap_cons, List.flatMap_cons, ih,
        ofLine_looksLike parse settings e.path number h]
    | @blank a as h _ ih =>
      intro number
      rw [numberedFrom_cons, List.flatMap_cons, ih, ofLine, lineKind_eq_blank_iff.mpr h]
      rfl
  rw [events, events, h.path]
  exact hlines h.lines 1

theorem occurrences_looksLike (parse : Parser) (settings : Settings) {d e : Document}
    (h : d.LooksLike e) : occurrences parse settings d = occurrences parse settings e := by
  rw [occurrences, occurrences, h.path]
  exact attach_looksLike (fun n a b hab => by rw [ofLine_looksLike parse settings e.path n hab])
    h.lines 1 .none .nil

end Hint

/-- Files that look alike are scanned alike. -/
theorem Scan.document_looksLike (parse : Ast.Parser) (settings : Settings) {d e : Document}
    (h : d.LooksLike e) (root : Ast.Node) :
    document parse settings d root = document parse settings e root := by
  simp only [document, Resolve.all_looksLike h, Hint.events_looksLike parse settings h,
    Hint.occurrences_looksLike parse settings h, h.path]

end LocaleKeys

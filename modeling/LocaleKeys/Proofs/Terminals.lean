import LocaleKeys.Console
import Mathlib.Data.List.TakeWhile

/-!
# Proofs: plain texts on a terminal

What may be expected of a terminal: a text that holds nothing special is shown as it is, and tags
are not shown. The wide terminal keeps to it.
-/

namespace LocaleKeys

namespace Terminal

/-- Does a character stand for itself? None does that steers the terminal or ends a line, and none
of which tags and guards are made. -/
def isPlainChar (c : Char) : Bool :=
  0x20 ≤ c.toNat && !(0x7f ≤ c.toNat && c.toNat ≤ 0x9f) &&
    !(['[', ']', '\\', '\u2028', '\u2029'].contains c)

/-- A text that stands for itself: its characters do, and nothing between two colons names an
emoji. -/
structure IsPlain (isEmoji : String → Prop) (s : String) : Prop where
  /-- Its characters stand for themselves. -/
  chars : ∀ c ∈ s.toList, isPlainChar c = true
  /-- There are no names of emoji in it. A name has no blanks. -/
  codes : ∀ before code after, s.toList = before ++ ':' :: code ++ ':' :: after →
    (∀ c ∈ code, Text.isBlank c = false) → ¬ isEmoji (String.ofList code)

/-- What the documentation of a terminal promises. It is known which texts fit in a line, and which
names are those of emoji. -/
structure Faithful (t : Terminal) (fits isEmoji : String → Prop) : Prop where
  /-- A guarded text that stands for itself and fits in a line is shown as it is, in one line. -/
  text : ∀ s, IsPlain isEmoji s → fits s → t.lines (t.guarded s) = [s]
  /-- The tags around the heading of an error are not shown. -/
  error : ∀ s, IsPlain isEmoji s →
    t.shown ("[bold red]Error:[/bold red] " ++ t.guarded s) = "Error: " ++ s
  /-- Nor are those around a notice. -/
  notice : t.shown "[bold yellow]No Ruby files found.[/bold yellow]" = "No Ruby files found."

/-- Without a colon there is no name of an emoji. -/
theorem IsPlain.of_chars {isEmoji : String → Prop} {s : String}
    (h : s.toList.all isPlainChar = true) (hcolon : ':' ∉ s.toList) : IsPlain isEmoji s := by
  refine ⟨List.all_eq_true.mp h, fun before code after hs => ?_⟩
  rw [hs] at hcolon
  simp at hcolon

theorem contains_of_isPlainChar {c : Char} (h : isPlainChar c = true) {special : List Char}
    (hspecial : special.any isPlainChar = false) : special.contains c = false := by
  rw [Bool.eq_false_iff]
  intro hmem
  exact List.any_eq_false.mp hspecial c (List.contains_iff_mem.mp hmem) h

end Terminal

/-! ## Emoji -/

namespace Text

/-- Does a code between colons have the name of an emoji? -/
def IsEmoji (named : String → Option String) (code : String) : Prop :=
  named (String.ofList (emojiForm code.toList).1) ≠ none

variable {named : String → Option String}

theorem emojiCode_of_not_isEmoji {code : List Char} (h : ¬ IsEmoji named (String.ofList code)) :
    emojiCode named code = ':' :: code ++ [':'] := by
  rw [IsEmoji, String.toList_ofList, not_not] at h
  rw [emojiCode]
  simp only [h]

theorem withEmoji_eq_drop (named : String → Option String) (skip : Nat) (cs : List Char) :
    withEmoji named skip cs = withEmoji named 0 (cs.drop skip) := by
  induction cs generalizing skip with
  | nil => rw [List.drop_nil]; rfl
  | cons c cs ih =>
    cases skip with
    | zero => rfl
    | succ skip => rw [withEmoji, ih, List.drop_succ_cons]

theorem of_codeAt? {cs code : List Char} (h : codeAt? cs = some code) :
    (∃ rest, cs = code ++ ':' :: rest) ∧ ∀ c ∈ code, isBlank c = false := by
  rw [codeAt?] at h
  split at h
  · rename_i rest hdrop
    obtain rfl := Option.some.inj h
    refine ⟨⟨rest, ?_⟩, fun c hc => ?_⟩
    · rw [← hdrop, List.prefix_iff_eq_append.mp (List.takeWhile_prefix _)]
    · have hkept := List.mem_takeWhile_imp hc
      simpa using (Bool.and_eq_true_iff.mp hkept).2
  · cases h

/-- A text in which nothing between colons names an emoji stays as it is. -/
theorem withEmoji_eq_self {cs : List Char}
    (h : ∀ before code after, cs = before ++ ':' :: code ++ ':' :: after →
      (∀ c ∈ code, isBlank c = false) → ¬ IsEmoji named (String.ofList code)) :
    withEmoji named 0 cs = cs := by
  induction hlength : cs.length using Nat.strongRecOn generalizing cs with
  | ind n ih =>
    subst hlength
    -- what follows a part of the text has no such name either
    have hlater : ∀ front rest, front ≠ [] → cs = front ++ rest →
        withEmoji named 0 rest = rest := by
      rintro front rest hfront rfl
      refine ih _ ?_ (fun before code after hrest => ?_) rfl
      · have hpos := List.length_pos_iff.mpr hfront
        rw [List.length_append]
        omega
      · exact h (front ++ before) code after (by rw [hrest]; simp)
    cases cs with
    | nil => rfl
    | cons c rest =>
      have hrest := hlater [c] rest (List.cons_ne_nil _ _) rfl
      rw [withEmoji]
      by_cases hcolon : c = ':'
      · subst hcolon
        rw [if_pos rfl]
        cases hcode : codeAt? rest with
        | none => rw [hrest]
        | some code =>
          obtain ⟨⟨after, rfl⟩, hblank⟩ := of_codeAt? hcode
          have hafter := hlater (':' :: code ++ [':']) after (by simp) (by simp)
          dsimp only
          rw [emojiCode_of_not_isEmoji (h [] code after (by simp) hblank), withEmoji_eq_drop,
            List.drop_append, List.drop_eq_nil_of_le (Nat.le_succ _)]
          simp [hafter]
      · rw [if_neg hcolon, hrest]

end Text

/-! ## The wide terminal -/

namespace Console

open Terminal (isPlainChar IsPlain)

variable {cs : List Char}

theorem tagLength?_of_ne {c : Char} (h : c ≠ '[') (cs : List Char) :
    tagLength? (c :: cs) = none := by
  cases cs with
  | nil => simp [tagLength?]
  | cons d cs => simp [tagLength?, h]

theorem ne_of_isPlainChar {c d : Char} (h : isPlainChar c = true) (hd : ¬ isPlainChar d = true) :
    c ≠ d :=
  fun heq => hd (heq ▸ h)

theorem guardTags_of_plain (h : ∀ c ∈ cs, isPlainChar c = true) (slashes : Nat) :
    guardTags slashes cs = cs := by
  induction cs generalizing slashes with
  | nil => rfl
  | cons c cs ih =>
    obtain ⟨hc, hcs⟩ := List.forall_mem_cons.mp h
    rw [guardTags, if_neg (ne_of_isPlainChar hc (by decide)),
      tagLength?_of_ne (ne_of_isPlainChar hc (by decide)), if_neg (by simp), ih hcs]

theorem guardEnd_of_plain (h : ∀ c ∈ cs, isPlainChar c = true) : guardEnd cs = cs := by
  have hlast : ∀ c rest, cs.reverse = c :: rest → c ≠ '\\' := by
    intro c rest hreverse
    have hmem : c ∈ cs := List.mem_reverse.mp (hreverse ▸ List.mem_cons_self)
    exact ne_of_isPlainChar (h c hmem) (by decide)
  rw [guardEnd]
  split
  · rename_i hreverse
    exact absurd rfl (hlast _ _ hreverse)
  · rename_i hreverse
    exact absurd rfl (hlast _ _ hreverse)
  · rfl

theorem dropGuards_of_plain (h : ∀ c ∈ cs, isPlainChar c = true) : dropGuards cs = cs := by
  induction cs with
  | nil => rfl
  | cons c cs ih =>
    obtain ⟨hc, hcs⟩ := List.forall_mem_cons.mp h
    rw [dropGuards, ih hcs]
    rintro rest rfl
    exact absurd hc (by decide)

theorem pieces_of_plain (h : ∀ c ∈ cs, isPlainChar c = true) : pieces 0 cs = [cs] := by
  induction cs with
  | nil => rfl
  | cons c cs ih =>
    obtain ⟨hc, hcs⟩ := List.forall_mem_cons.mp h
    have hslash : decide (c = '\\') = false := by
      simpa using ne_of_isPlainChar hc (by decide)
    rw [pieces]
    simp only [List.takeWhile_cons, hslash, if_neg Bool.false_ne_true, List.length_nil,
      List.drop_zero, tagLength?_of_ne (ne_of_isPlainChar hc (by decide)), ih hcs]
    rfl

theorem setTabs_of_plain (h : ∀ c ∈ cs, isPlainChar c = true) (column : Nat) :
    setTabs column cs = cs := by
  induction cs generalizing column with
  | nil => rfl
  | cons c cs ih =>
    obtain ⟨hc, hcs⟩ := List.forall_mem_cons.mp h
    rw [setTabs, if_neg (ne_of_isPlainChar hc (by decide)),
      if_neg (ne_of_isPlainChar hc (by decide)), ih hcs]

theorem filter_isUnshown_of_plain (h : ∀ c ∈ cs, isPlainChar c = true) :
    cs.filter (!isUnshown ·) = cs := by
  rw [List.filter_eq_self]
  intro c hc
  rw [isUnshown, Terminal.contains_of_isPlainChar (h c hc) (by decide)]
  rfl

theorem outputLines_of_plain (h : ∀ c ∈ cs, isPlainChar c = true) :
    Text.outputLines (cs ++ ['\n']) = [cs] := by
  induction cs with
  | nil => rfl
  | cons c cs ih =>
    obtain ⟨hc, hcs⟩ := List.forall_mem_cons.mp h
    have hbreak : Text.isLineBreak c = false := Terminal.contains_of_isPlainChar hc (by decide)
    rw [List.cons_append, Text.outputLines, hbreak, if_neg Bool.false_ne_true, ih hcs]
    rintro rest rfl
    exact absurd hc (by decide)

theorem guarded_of_plain {s : String} (h : ∀ c ∈ s.toList, isPlainChar c = true) :
    guarded s = s := by
  rw [guarded, guardTags_of_plain h, guardEnd_of_plain h, String.ofList_toList]

/-- The names that the wide terminal takes for those of emoji. -/
def IsEmoji (code : String) : Prop := Text.IsEmoji Text.emoji? code

theorem withEmoji_dropGuards_of_plain {s : String} (h : IsPlain IsEmoji s) :
    Text.withEmoji Text.emoji? 0 (dropGuards s.toList) = s.toList := by
  rw [dropGuards_of_plain h.chars, Text.withEmoji_eq_self h.codes]

theorem shown_of_plain {s : String} (h : IsPlain IsEmoji s) : shown s = s := by
  rw [shown, taken, pieces_of_plain h.chars, List.flatMap_singleton,
    withEmoji_dropGuards_of_plain h, filter_isUnshown_of_plain h.chars, setTabs_of_plain h.chars,
    String.ofList_toList]

/-- The heading of an error is a piece of its own, and its tags are left out. -/
theorem pieces_error (cs : List Char) :
    pieces 0 ("[bold red]Error:[/bold red] ".toList ++ cs) =
      [[], [], [], "Error:".toList, [], []] ++ pieces 0 (' ' :: cs) := by
  simp [pieces, tagLength?, isTagStart, onto]

theorem shown_error_of_plain {s : String} (h : IsPlain IsEmoji s) :
    shown ("[bold red]Error:[/bold red] " ++ s) = "Error: " ++ s := by
  have hrest : ∀ c ∈ ' ' :: s.toList, isPlainChar c = true :=
    List.forall_mem_cons.mpr ⟨rfl, h.chars⟩
  have hall : ∀ c ∈ ("Error: " ++ s).toList, isPlainChar c = true := by
    rw [String.toList_append]
    exact List.forall_mem_append.mpr ⟨List.all_eq_true.mp (by decide), h.chars⟩
  have hcodes : Text.withEmoji Text.emoji? 0 (' ' :: s.toList) = ' ' :: s.toList := by
    rw [Text.withEmoji, if_neg (by decide), Text.withEmoji_eq_self h.codes]
  have htaken : taken ("[bold red]Error:[/bold red] " ++ s).toList = ("Error: " ++ s).toList := by
    rw [taken, String.toList_append, pieces_error, pieces_of_plain hrest, List.flatMap_append,
      List.flatMap_singleton, dropGuards_of_plain hrest, hcodes]
    have hheading : ([[], [], [], "Error:".toList, [], []].flatMap fun piece =>
        Text.withEmoji Text.emoji? 0 (dropGuards piece)) = "Error:".toList := by
      simp [dropGuards, Text.withEmoji, Text.codeAt?]
    rw [hheading, ← filter_isUnshown_of_plain hall, String.toList_append]
    rfl
  rw [shown, htaken, setTabs_of_plain hall, String.ofList_toList]

theorem lines_of_plain {s : String} (h : IsPlain IsEmoji s) : lines s = [s] := by
  have hlines : Text.outputLines ((shown s).toList ++ ['\n']) = [s.toList] := by
    rw [shown_of_plain h]
    exact outputLines_of_plain h.chars
  rw [lines, hlines, List.map_singleton, String.ofList_toList]

theorem shown_notice :
    shown "[bold yellow]No Ruby files found.[/bold yellow]" = "No Ruby files found." := by
  decide +kernel

theorem terminal_guarded : terminal.guarded = guarded := by rw [terminal]

theorem terminal_shown : terminal.shown = shown := by rw [terminal]

theorem terminal_lines : terminal.lines = lines := by rw [terminal]

/-- The wide terminal keeps to what terminals promise, and every text fits in its lines. -/
theorem faithful_terminal : terminal.Faithful (fun _ => True) IsEmoji := by
  refine ⟨fun s h _ => ?_, fun s h => ?_, ?_⟩
  · rw [terminal_lines, terminal_guarded, guarded_of_plain h.chars]
    exact lines_of_plain h
  · rw [terminal_shown, terminal_guarded, guarded_of_plain h.chars]
    exact shown_error_of_plain h
  · rw [terminal_shown]
    exact shown_notice

end Console

end LocaleKeys

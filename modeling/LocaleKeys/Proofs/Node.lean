import LocaleKeys.Literal
import Mathlib.Logic.Relation

/-!
# Proofs: nodes of syntax trees

Induction over trees, the nodes that a node holds, and the names of constants.
-/

namespace LocaleKeys.Ast.Node

open Relation

mutual

/-- What holds of a node whenever it holds of its children holds of all nodes. -/
theorem induct {P : Node → Prop} (h : ∀ t cs, (∀ c ∈ cs, P c) → P ⟨t, cs⟩) (n : Node) : P n :=
  match n with
  | ⟨t, cs⟩ => h t cs (induct_all h cs)

theorem induct_all {P : Node → Prop} (h : ∀ t cs, (∀ c ∈ cs, P c) → P ⟨t, cs⟩) (cs : List Node) :
    ∀ c ∈ cs, P c :=
  match cs with
  | [] => List.forall_mem_nil P
  | d :: cs => List.forall_mem_cons.mpr ⟨induct h d, induct_all h cs⟩

end

/-- A node is another one or lies below it. -/
def Holds (n m : Node) : Prop := ReflTransGen (fun p c => c ∈ p.children) n m

theorem Holds.refl (n : Node) : Holds n n := ReflTransGen.refl

theorem Holds.of_child {t : Tag} {cs : List Node} {c m : Node} (hc : c ∈ cs) (h : Holds c m) :
    Holds ⟨t, cs⟩ m :=
  ReflTransGen.head hc h

theorem holds_iff {t : Tag} {cs : List Node} {m : Node} :
    Holds ⟨t, cs⟩ m ↔ m = ⟨t, cs⟩ ∨ ∃ c ∈ cs, Holds c m := by
  rw [Holds, ReflTransGen.cases_head_iff]
  exact or_congr eq_comm Iff.rfl

mutual

/-- Does a test pass at a node and at all nodes below it? -/
def everywhere (test : Node → Bool) : Node → Bool
  | ⟨t, cs⟩ => test ⟨t, cs⟩ && everywhereAll test cs

/-- Does a test pass at some nodes and at all nodes below them? -/
def everywhereAll (test : Node → Bool) : List Node → Bool
  | [] => true
  | c :: cs => c.everywhere test && everywhereAll test cs

end

theorem everywhereAll_eq (test : Node → Bool) (cs : List Node) :
    everywhereAll test cs = cs.all (everywhere test) := by
  induction cs with
  | nil => rfl
  | cons c cs ih => rw [everywhereAll, ih, List.all_cons]

theorem everywhere_iff {test : Node → Bool} {n : Node} :
    n.everywhere test = true ↔ ∀ m, n.Holds m → test m = true := by
  induction n using induct with
  | h t cs ih =>
    rw [everywhere, everywhereAll_eq, Bool.and_eq_true, List.all_eq_true]
    constructor
    · rintro ⟨hself, hcs⟩ m hm
      rcases holds_iff.mp hm with rfl | ⟨c, hc, hcm⟩
      · exact hself
      · exact (ih c hc).mp (hcs c hc) m hcm
    · intro h
      exact ⟨h _ (Holds.refl _), fun c hc => (ih c hc).mpr fun m hm => h m (Holds.of_child hc hm)⟩

theorem everywhere_self {test : Node → Bool} {n : Node} (h : n.everywhere test = true) :
    test n = true :=
  everywhere_iff.mp h n (Holds.refl n)

theorem everywhere_child {test : Node → Bool} {n c : Node} (h : n.everywhere test = true)
    (hc : c ∈ n.children) : c.everywhere test = true := by
  obtain ⟨t, cs⟩ := n
  exact everywhere_iff.mpr fun m hm => everywhere_iff.mp h m (Holds.of_child hc hm)

theorem mem_of_child? {n c : Node} {role : Role} (h : n.child? role = some c) : c ∈ n.children :=
  List.mem_of_find?_eq_some h

theorem everywhere_child? {test : Node → Bool} {n c : Node} (h : n.everywhere test = true)
    {role : Role} (hc : n.child? role = some c) : c.everywhere test = true :=
  everywhere_child h (mem_of_child? hc)

theorem everywhere_named {test : Node → Bool} {n : Node} (h : n.everywhere test = true) :
    ∀ c ∈ n.named, c.everywhere test = true :=
  fun _ hc => everywhere_child h (List.mem_filter.mp hc).1

/-! ## Names of constants -/

theorem constantPathOf_eq (role : Role) (cs : List Node) :
    constantPathOf role cs = ((cs.find? (plays role)).map constantPath).getD [] := by
  induction cs with
  | nil => rfl
  | cons c cs ih =>
    rw [constantPathOf, List.find?_cons]
    by_cases hc : c.plays role = true
    · simp [hc]
    · simp [hc, ih]

/-- Where every constant inside another one has a name, every constant has one. -/
theorem constantPath_ne_nil (n : Node)
    (hnamed : ∀ m, n.Holds m → m.kind = .scopeResolution → (m.child? .name).isSome = true) :
    n.constantPath ≠ [] := by
  induction n using induct with
  | h t cs ih =>
    by_cases hkind : t.kind = .scopeResolution
    · obtain ⟨name, hname⟩ := Option.isSome_iff_exists.mp (hnamed ⟨t, cs⟩ (Holds.refl _) hkind)
      have hmem : name ∈ cs := List.mem_of_find?_eq_some hname
      have hpath : name.constantPath ≠ [] :=
        ih name hmem fun m hm => hnamed m (Holds.of_child hmem hm)
      have hfind : cs.find? (plays .name) = some name := hname
      rw [constantPath, hkind, constantPathOf_eq .name, hfind]
      simp [hpath]
    · rw [constantPath]
      split
      · rename_i h
        exact absurd h hkind
      · simp

end LocaleKeys.Ast.Node

import LocaleKeys.Ast.Node

/-!
# Nodes on a stack

A search through a tree keeps the nodes that are still to be looked at on a stack, with the next one
on top, which is its end. The nodes below what it looks at take its place, the first of them on top,
so every step leaves fewer nodes to look at.
-/

namespace LocaleKeys.Ast.Node

mutual

/-- The number of nodes at a node and below it. -/
def size : Node → Nat
  | ⟨_, cs⟩ => sizeAll cs + 1

/-- The number of nodes at some nodes and below them. -/
def sizeAll : List Node → Nat
  | [] => 0
  | c :: cs => c.size + sizeAll cs

end

theorem size_eq (n : Node) : n.size = sizeAll n.children + 1 := by
  cases n
  rfl

theorem sizeAll_append (xs ys : List Node) : sizeAll (xs ++ ys) = sizeAll xs + sizeAll ys := by
  induction xs with
  | nil => simp [sizeAll]
  | cons x xs ih => simp [sizeAll, ih, Nat.add_assoc]

theorem sizeAll_reverse (xs : List Node) : sizeAll xs.reverse = sizeAll xs := by
  induction xs with
  | nil => rfl
  | cons x xs ih => simp [sizeAll, sizeAll_append, ih, Nat.add_comm]

/-- A stack is what lies below its top, and the top. -/
theorem toList_of_back? {stack : Array Node} {n : Node} (h : stack.back? = some n) :
    stack.toList = stack.pop.toList ++ [n] := by
  rw [← Array.getLast?_toList, List.getLast?_eq_some_iff] at h
  obtain ⟨below, hbelow⟩ := h
  rw [Array.toList_pop, hbelow, List.dropLast_concat]

theorem sizeAll_filter_le (p : Node → Bool) (xs : List Node) :
    sizeAll (xs.filter p) ≤ sizeAll xs := by
  induction xs with
  | nil => simp [sizeAll]
  | cons x xs ih =>
    cases hx : p x with
    | true => simp [hx, sizeAll, ih]
    | false =>
      rw [List.filter_cons_of_neg (by simp [hx]), sizeAll]
      omega

/-- With nodes below the top in its place, fewer nodes are left. -/
theorem sizeAll_step_lt {stack : Array Node} {n : Node} (h : stack.back? = some n)
    {next : List Node} (hnext : sizeAll next ≤ sizeAll n.children) :
    sizeAll (stack.pop ++ next.reverse).toList < sizeAll stack.toList := by
  rw [toList_of_back? h, Array.toList_appendList, sizeAll_append, sizeAll_append, sizeAll_reverse]
  simp only [sizeAll, size_eq]
  omega

end LocaleKeys.Ast.Node

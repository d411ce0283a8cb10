/-!
# Depth-first search along paths

A search that follows `next` from a node as far as it goes, carries the path that led to where it
stands, and does not enter a node again once all ways from it have been followed. It stops at the
first node that the path already holds: that is a cycle.
-/

namespace LocaleKeys.Search

variable {α σ : Type} [DecidableEq α]

/-- The cycle that is closed by coming to `a` again along a path, whose last node comes first. -/
def cycleAt (path : List α) (a : α) : List α :=
  a :: (path.takeWhile (· ≠ a)).reverse ++ [a]

/-- Search from a node, at most `fuel` steps deep. `done` holds the nodes all ways from which have
been followed; `enter` says what happens to the state at a node. -/
def visit (next : α → List α) (enter : α → σ → σ) :
    (fuel : Nat) → (path : List α) → List α × σ → α → Except (List α) (List α × σ)
  | 0, _, s, _ => .ok s
  | fuel + 1, path, (done, s), a =>
    if path.contains a then .error (cycleAt path a)
    else if done.contains a then .ok (done, s)
    else do
      let (done, s) ← (next a).foldlM (visit next enter fuel (a :: path)) (done, enter a s)
      return (a :: done, s)

/-- Search from each of some nodes in turn. -/
def visitAll (next : α → List α) (enter : α → σ → σ) (fuel : Nat) (s : σ) (starts : List α) :
    Except (List α) (List α × σ) :=
  starts.foldlM (visit next enter fuel []) ([], s)

end LocaleKeys.Search

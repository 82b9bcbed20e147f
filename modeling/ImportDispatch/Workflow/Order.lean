/-!
# Order of a graph

A search for an order of the nodes of a graph in which every edge points forward.  It has two parts.  A depth-first
search along the edges lists every node after those it leads to, and stops at a node that leads to itself.  The list,
read from the node finished last, is an order unless the graph has a cycle; so each node in turn is looked at from
behind, and a node found there that has not been passed yet lies on a cycle.
-/
namespace ImportDispatch
namespace Order

/-- A depth-first search with an explicit stack.  `fresh` holds the nodes not met yet, `done` the finished ones, the
latest first.  A node stays on the stack while what it leads to is searched, and is finished when it comes up again.
The error is a node that leads to itself. -/
def search (next : Nat → List Nat) (fresh stack done : List Nat) : Except Nat (List Nat) :=
  match stack with
  | [] => .ok done
  | x :: below =>
    if x ∈ fresh then
      if x ∈ next x then .error x
      else search next (fresh.erase x) (((next x).filter (· ∈ fresh.erase x)).reverse ++ x :: below) done
    else search next fresh below (if x ∈ done then done else x :: done)
termination_by stack.length + (fresh.flatMap fun y => y :: next y).length
decreasing_by
  · rename_i h _
    -- what a fresh node puts on the stack is no more than what goes with it
    have hsplit : (fresh.flatMap fun y => y :: next y).length =
        (next x).length + 1 + ((fresh.erase x).flatMap fun y => y :: next y).length := by
      rw [((List.perm_cons_erase h).flatMap_right fun y => y :: next y).length_eq, List.flatMap_cons,
        List.length_append, List.length_cons]
    have hpushed := List.length_filter_le (· ∈ fresh.erase x) (next x)
    simp only [List.length_append, List.length_reverse, List.length_cons, hsplit]
    omega
  · simp only [List.length_cons]
    omega

/-- Looks at each node from behind: at the last of the nodes that lead to it and were not passed yet. -/
def lookBack (previous : Nat → List Nat) : List Nat → List Nat → Option Nat
  | [], _ => none
  | x :: rest, fresh =>
    if x ∈ fresh then
      match ((previous x).filter (· ∈ fresh.erase x)).getLast? with
      | some y => some y
      | none => lookBack previous rest (fresh.erase x)
    else lookBack previous rest fresh

/-- A node on a cycle of the graph with `count` nodes, if there is one. -/
def cycleNode? (count : Nat) (next previous : Nat → List Nat) : Option Nat :=
  match search next (List.range count) (List.range count) [] with
  | .error x => some x
  | .ok order => lookBack previous order (List.range count)

end Order
end ImportDispatch

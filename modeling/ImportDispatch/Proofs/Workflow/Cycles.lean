import ImportDispatch.Proofs.Workflow.Soundness
import Mathlib.Data.List.Permutation
/-!
# The node that is told for a cycle

A draft with a cycle fails with the name of one node, and that node lies on a cycle itself: it is not just a node that
leads to one or comes behind one (`WorkflowDraft.cycle_through_told`).

The node is found from behind.  What is meant by that is a walk along the transitions backward, from each node in turn
in the order of the search: the first walk that meets a second node tells it.  A walk that meets no other node has met
its start, so no walk has to go on behind the second node (`Order.lookBack_eq_secondMet?`).
-/
namespace ImportDispatch

open Relation (TransGen)

/-! ## Walks -/

namespace Order

variable {previous : Nat → List Nat}

/-- The nodes that a depth-first walk meets, in the order in which it meets them.  A node can be on the stack more than
once, and counts where it is fresh. -/
def walk (previous : Nat → List Nat) (fresh stack : List Nat) : List Nat :=
  match stack with
  | [] => []
  | x :: below =>
    if x ∈ fresh then x :: walk previous (fresh.erase x) (((previous x).filter (· ∈ fresh.erase x)).reverse ++ below)
    else walk previous fresh below
termination_by (fresh.length, stack.length)
decreasing_by
  · rename_i h
    have : 0 < fresh.length := List.length_pos_of_mem h
    apply Prod.Lex.left
    rw [List.length_erase_of_mem h]
    omega
  · apply Prod.Lex.right
    simp

/-- Walks from each node in turn, over what the walks before it have not met: the second node of the first walk that
meets two. -/
def secondMet? (previous : Nat → List Nat) : List Nat → List Nat → Option Nat
  | [], _ => none
  | x :: rest, fresh =>
    match walk previous fresh [x] with
    | _ :: y :: _ => some y
    | met => secondMet? previous rest (fresh.diff met)

theorem walk_nil (fresh : List Nat) : walk previous fresh [] = [] := by
  rw [walk]

theorem walk_met {x : Nat} {fresh below : List Nat} (h : x ∈ fresh) : walk previous fresh (x :: below) =
    x :: walk previous (fresh.erase x) (((previous x).filter (· ∈ fresh.erase x)).reverse ++ below) := by
  rw [walk, if_pos h]

theorem walk_passed {x : Nat} {fresh below : List Nat} (h : x ∉ fresh) :
    walk previous fresh (x :: below) = walk previous fresh below := by
  rw [walk, if_neg h]

/-- Looking at a node from behind finds the second node of the walk from there. -/
theorem walk_second {x : Nat} {fresh : List Nat} (h : x ∈ fresh) :
    (walk previous fresh [x]).tail.head? = ((previous x).filter (· ∈ fresh.erase x)).getLast? := by
  rw [walk_met h, List.tail_cons, List.append_nil, ← List.head?_reverse]
  cases hback : ((previous x).filter (· ∈ fresh.erase x)).reverse with
  | nil => rw [walk_nil]
  | cons y below =>
    have hy : y ∈ ((previous x).filter (· ∈ fresh.erase x)).reverse := by rw [hback]; exact List.mem_cons_self
    have hfresh : y ∈ fresh.erase x := by simpa using (List.mem_filter.1 (List.mem_reverse.1 hy)).2
    rw [walk_met hfresh]
    rfl

/-- **Looking back is walking back.** -/
theorem lookBack_eq_secondMet? (order : List Nat) : ∀ fresh : List Nat,
    lookBack previous order fresh = secondMet? previous order fresh := by
  induction order with
  | nil => exact fun _ => rfl
  | cons x rest ih =>
    intro fresh
    rw [lookBack_cons, secondMet?]
    by_cases hx : x ∈ fresh
    · have hsecond : (walk previous fresh [x]).tail.head? = _ := walk_second hx
      rw [walk_met hx, List.tail_cons] at hsecond
      rw [if_pos hx, ← hsecond, walk_met hx]
      cases walk previous (fresh.erase x) (((previous x).filter (· ∈ fresh.erase x)).reverse ++ []) with
      | nil =>
        show lookBack previous rest (fresh.erase x) = secondMet? previous rest (fresh.diff [x])
        rw [List.diff_cons, List.diff_nil]
        exact ih (fresh.erase x)
      | cons y others => rfl
    · rw [if_neg hx, walk_passed hx, walk_nil]
      exact ih fresh

end Order

/-! ## Drafts -/

namespace NodeList

theorem cycleError?_of_error? {start : Text} {nodes : List Node} {x : Text} (h : error? start nodes = some (.cycle x)) :
    cycleError? nodes = some (.cycle x) := by
  rcases error?_eq_some.1 h with h | ⟨-, ⟨-, h⟩ | ⟨-, h | ⟨-, h | ⟨-, h⟩⟩⟩⟩
  · obtain ⟨_, _, _, -, -, ⟨-, h⟩ | ⟨-, -, h⟩⟩ := nameError?_eq_some.1 h <;> cases h
  · cases h
  · obtain ⟨_, _, _, _, _, _, -, -, -, -, -, h⟩ := danglingError?_eq_some.1 h
    cases h
  · exact h
  · obtain ⟨_, _, _, -, ⟨-, -, h⟩ | ⟨-, -, h⟩, -⟩ := entryError?_eq_some.1 h <;> cases h

end NodeList

namespace WorkflowDraft

open NodeList (LeadsTo)

/-- **The node that is told for a cycle lies on one**: it is a node of the draft, and declared transitions lead from it
back to it. -/
theorem cycle_through_told {draft : WorkflowDraft} {x : Text} (h : draft.build = .error (.cycle x)) :
    (∃ node ∈ draft.nodes, node.name = x) ∧ TransGen (LeadsTo draft.nodes) x x := by
  have hcycle : NodeList.cycleError? draft.nodes = some (.cycle x) := by
    unfold build at h
    split at h
    · cases h
    · cases h
    · split at h
      · cases h
        exact NodeList.cycleError?_of_error? (by assumption)
      · cases h
  obtain ⟨y, hy, hback⟩ := NodeList.cycleError?_eq_some hcycle
  cases hy
  obtain ⟨-, ⟨node, hnode, hname, -⟩, -⟩ := TransGen.head'_iff.1 hback
  exact ⟨⟨node, hnode, hname⟩, hback⟩

/-- A way into a cycle of two nodes, and a way out of it. -/
def loopedDraft : WorkflowDraft where
  name? := some "load-app".toList
  start? := some "prepare".toList
  nodes := [.action "prepare".toList "import".toList [] "check".toList,
    .decision "check".toList "/flag".toList "clean".toList "load".toList,
    .remove "clean".toList "/data".toList "check".toList, .action "load".toList "import".toList [] endName]

theorem cycle_through_told_loopedDraft : loopedDraft.build = .error (.cycle "clean".toList) ∧
    (∃ node ∈ loopedDraft.nodes, node.name = "clean".toList) ∧
      TransGen (LeadsTo loopedDraft.nodes) "clean".toList "clean".toList :=
  have hbuild : loopedDraft.build = .error (.cycle "clean".toList) := by cbv
  ⟨hbuild, cycle_through_told hbuild⟩

end WorkflowDraft
end ImportDispatch

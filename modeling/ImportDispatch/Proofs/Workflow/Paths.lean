import ImportDispatch.Proofs.Workflow.Soundness
import Mathlib.Data.List.Chain
import Mathlib.Data.List.Permutation
/-!
# What runs of a workflow can rely on

The checks on a graph are local: no cycle, and every node but the start is entered.  Two global facts follow, and both
rest on one count: names along transitions are distinct, so that a path has at most one step for each node.  Forwards it
bounds every run; backwards it brings every walk from a node towards what leads to it to the start.
-/
namespace ImportDispatch

open Relation (ReflTransGen TransGen)

namespace NodeList

variable {nodes : List Node} {start x : Text}

/-! ## Paths -/

theorem nodup_of_isChain (hacyclic : Acyclic nodes) {path : List Text} (h : path.IsChain (LeadsTo nodes)) :
    path.Nodup := by
  have hpairs : path.Pairwise (TransGen (LeadsTo nodes)) := (h.imp fun _ _ => TransGen.single).pairwise
  refine hpairs.imp fun {x y} hxy he => ?_
  subst he
  exact hacyclic x hxy

theorem listed_of_isChain : ∀ {path : List Text}, path.IsChain (LeadsTo nodes) →
    ∀ x ∈ path.dropLast, x ∈ nodes.map Node.name
  | [], _, x, hx => by cases hx
  | [_], _, x, hx => by cases hx
  | a :: b :: path, h, x, hx => by
    rw [List.isChain_cons_cons] at h
    rw [List.dropLast_cons_cons] at hx
    rcases List.mem_cons.1 hx with rfl | hx
    · exact listed_of_leadsTo h.1
    · exact listed_of_isChain h.2 x hx

/-- **A path has at most as many steps as there are nodes.** -/
theorem length_le_of_isChain (hacyclic : Acyclic nodes) {path : List Text} (h : path.IsChain (LeadsTo nodes)) :
    path.length ≤ nodes.length + 1 := by
  have hnodup : path.dropLast.Nodup := (nodup_of_isChain hacyclic h).sublist (List.dropLast_sublist path)
  have hcount : path.dropLast.length ≤ (nodes.map Node.name).length :=
    hnodup.length_le_of_subset (listed_of_isChain h)
  rw [List.length_dropLast, List.length_map] at hcount
  omega

/-- The walk backwards from the head of a path, which the path left behind it keeps short. -/
theorem reachable_of_isChain (hsound : Sound start nodes) : ∀ (k : Nat) (x : Text) (path : List Text),
    (x :: path).IsChain (LeadsTo nodes) → nodes.length + 1 ≤ k + path.length → x ∈ nodes.map Node.name →
    ReflTransGen (LeadsTo nodes) start x
  | 0, x, path, h, hk, _ => by
    have := length_le_of_isChain hsound.acyclic h
    rw [List.length_cons] at this
    omega
  | k + 1, x, path, h, hk, hx => by
    by_cases hs : x = start
    · rw [hs]
    obtain ⟨node, hn, rfl⟩ := List.mem_map.1 hx
    obtain ⟨before, hb, hlead⟩ := hsound.others_entered node hn hs
    have hstep : LeadsTo nodes before.name node.name := ⟨before, hb, rfl, hlead⟩
    have hlen : nodes.length + 1 ≤ k + (node.name :: path).length := by
      rw [List.length_cons]
      omega
    exact (reachable_of_isChain hsound k before.name (node.name :: path) (List.isChain_cons_cons.2 ⟨hstep, h⟩) hlen
      (List.mem_map_of_mem hb)).tail hstep

/-- Where a way along transitions ends is a fixed node, or a node that leads on. -/
theorem leads_on (hsound : Sound start nodes) {node : Node} (hn : node ∈ nodes)
    (h : ReflTransGen (LeadsTo nodes) node.name x) :
    isFixedName x = true ∨ ∃ y, LeadsTo nodes x y := by
  have hdefined : Defined nodes x := by
    rcases ReflTransGen.cases_tail_iff _ _ _ |>.1 h with rfl | ⟨y, -, before, hb, -, hs⟩
    · exact Or.inr (List.mem_map_of_mem hn)
    · exact hsound.defined before hb x hs
  refine hdefined.imp_right fun hx => ?_
  obtain ⟨other, ho, rfl⟩ := List.mem_map.1 hx
  obtain ⟨y, hy⟩ := List.exists_mem_of_ne_nil other.successors (by cases other <;> simp [Node.successors])
  exact ⟨y, other, ho, rfl, hy⟩

/-- The names that a run comes by are a path as long as it has not reached a fixed node. -/
theorem isChain_of_run {run : Nat → Text}
    (hrun : ∀ i, isFixedName (run i) = false → LeadsTo nodes (run i) (run (i + 1))) :
    ∀ n, (∀ i < n, isFixedName (run i) = false) → ((List.range (n + 1)).map run).IsChain (LeadsTo nodes)
  | 0, _ => by simp
  | n + 1, h => by
    rw [List.range_succ, List.map_append, List.isChain_append]
    refine ⟨isChain_of_run hrun n (fun i hi => h i (by omega)), by simp, ?_⟩
    intro x hx y hy
    rw [List.range_succ, List.map_append, List.map_singleton, List.getLast?_concat, Option.mem_some_iff] at hx
    rw [List.map_singleton, List.head?_singleton, Option.mem_some_iff] at hy
    rw [← hx, ← hy]
    exact hrun n (h n (by omega))

/-- A run comes to a fixed node in as many steps as there are nodes. -/
theorem run_ends (hacyclic : Acyclic nodes) {run : Nat → Text}
    (hrun : ∀ i, isFixedName (run i) = false → LeadsTo nodes (run i) (run (i + 1))) :
    ∃ k ≤ nodes.length, isFixedName (run k) = true := by
  by_contra hnever
  have hfree : ∀ i < nodes.length + 1, isFixedName (run i) = false := by
    intro i hi
    cases hf : isFixedName (run i) with
    | false => rfl
    | true => exact absurd ⟨i, by omega, hf⟩ hnever
  have := length_le_of_isChain hacyclic (isChain_of_run hrun (nodes.length + 1) hfree)
  rw [List.length_map, List.length_range] at this
  omega

end NodeList

/-! ## Workflows -/

namespace Workflow

open NodeList (LeadsTo Entered)

/-- What a run of a workflow can rely on. -/
structure Navigable (workflow : Workflow) : Prop where
  /-- Every node can be reached from the start. -/
  reachable : ∀ node ∈ workflow.nodes, ReflTransGen (LeadsTo workflow.nodes) workflow.start node.name
  /-- No path comes to a name twice. -/
  distinct : ∀ path : List Text, path.IsChain (LeadsTo workflow.nodes) → path.Nodup
  /-- A path has at most as many steps as there are nodes. -/
  short : ∀ path : List Text, path.IsChain (LeadsTo workflow.nodes) → path.length ≤ workflow.nodes.length + 1
  /-- A path from a node that has not come to a fixed node can go on. -/
  unstuck : ∀ node ∈ workflow.nodes, ∀ x, ReflTransGen (LeadsTo workflow.nodes) node.name x →
    isFixedName x = true ∨ ∃ y, LeadsTo workflow.nodes x y
  /-- A run from a node, whatever its branches decide, comes to a fixed node in as many steps as there are nodes. -/
  ends : ∀ run : Nat → Text, run 0 ∈ workflow.nodes.map Node.name →
    (∀ i, isFixedName (run i) = false → LeadsTo workflow.nodes (run i) (run (i + 1))) →
    ∃ k ≤ workflow.nodes.length, isFixedName (run k) = true
  start_listed : ∃ node ∈ workflow.nodes, node.name = workflow.start
  /-- The start is the one node that nothing leads to. -/
  only_start : ∀ node ∈ workflow.nodes, ¬ Entered workflow.nodes node.name ↔ node.name = workflow.start
  /-- Looking up the name of a node gives that node. -/
  lookup : ∀ node ∈ workflow.nodes, workflow.node? node.name = some node
  /-- No two nodes have one name. -/
  unique : ∀ node ∈ workflow.nodes, ∀ other ∈ workflow.nodes, node.name = other.name → node = other

theorem navigable_of_sound {workflow : Workflow} (hsound : NodeList.Sound workflow.start workflow.nodes) :
    workflow.Navigable where
  reachable node hn :=
    NodeList.reachable_of_isChain hsound (workflow.nodes.length + 1) node.name [] (by simp) (by simp)
      (List.mem_map_of_mem hn)
  distinct _ := NodeList.nodup_of_isChain hsound.acyclic
  short _ := NodeList.length_le_of_isChain hsound.acyclic
  unstuck _ hn _ := NodeList.leads_on hsound hn
  ends _ _ := NodeList.run_ends hsound.acyclic
  start_listed := List.mem_map.1 hsound.start_listed
  only_start node hn := by
    constructor
    · intro h
      by_contra hs
      exact h (hsound.others_entered node hn hs)
    · intro hs
      rw [hs]
      exact hsound.start_not_entered
  lookup node hn := by
    have hdistinct := hsound.distinct
    obtain ⟨front, rest, hs⟩ := List.append_of_mem hn
    rw [node?, hs, List.find?_append, List.find?_cons_of_pos (by simp)]
    rw [List.find?_eq_none.2 fun earlier he hname => ?_, Option.none_or]
    rw [hs, List.map_append, List.map_cons, List.nodup_append] at hdistinct
    exact hdistinct.2.2 _ (List.mem_map_of_mem he) _ List.mem_cons_self (beq_iff_eq.1 hname)
  unique node hn other ho h := List.inj_on_of_nodup_map hsound.distinct hn ho h

/-- **Every workflow that is built can be navigated.** -/
theorem navigable_of_build (draft : WorkflowDraft) (workflow : Workflow) (h : draft.build = .ok workflow) :
    workflow.Navigable := by
  obtain ⟨name, start, -, -, hsound, rfl⟩ := WorkflowDraft.build_eq_ok.1 h
  exact navigable_of_sound hsound

/-- A decision whose branches meet again. -/
def forkedDraft : WorkflowDraft where
  name? := some "load-app".toList
  start? := some "choose".toList
  nodes := [.decision "choose".toList "/flag".toList "clean".toList "load".toList,
    .remove "clean".toList "/data".toList "load".toList, .action "load".toList "import".toList [] endName]

def forkedWorkflow : Workflow := ⟨"load-app".toList, "choose".toList, standardKillMessage, forkedDraft.nodes⟩

theorem navigable_forkedWorkflow : forkedDraft.build = .ok forkedWorkflow ∧ forkedWorkflow.Navigable :=
  ⟨by cbv, navigable_of_build forkedDraft forkedWorkflow (by cbv)⟩

end Workflow
end ImportDispatch

import ImportDispatch.Proofs.Workflow.Paths
/-!
# Runs of a workflow

The engine goes from node to node.  A node that goes well leads on, one that fails leads to the fail node, and a decision
goes by whether its path is there.  Of all that is outside of the workflow one path is watched, the flag: only a touch of
it leaves it there, and nothing takes it away, so that it lasts from one run to the next.  Everything else may go well or
not.  Every workflow with a sound graph has a run then, whatever goes well (`Workflow.exists_run`), and so a history of
any length (`Workflow.exists_history`).
-/
namespace ImportDispatch

/-! ## Visits -/

/-- A node that was visited, and whether it went well.  A decision goes well if its path is there. -/
structure Visit where
  node : Text
  good : Bool
deriving DecidableEq, Repr

namespace Node

/-- Where the engine goes on. -/
def next : Node → Bool → Text
  | decision _ _ thenTo elseTo, good => if good then thenTo else elseTo
  | action _ _ _ next, good => if good then next else failName
  | touch _ _ next, good => if good then next else failName
  | remove _ _ next, good => if good then next else failName

/-- A decision on the flag goes by whether the flag is there.  Everything else may go well or not. -/
def MayGo (flag : Text) (there : Bool) : Node → Bool → Prop
  | decision _ path _ _, good => path = flag → good = there
  | _, _ => True

/-- Whether the flag is there after the node. -/
def leaves (flag : Text) (there : Bool) : Node → Bool → Bool
  | touch _ path _, good => there || (good && path == flag)
  | _, _ => there

theorem next_declared (node : Node) (good : Bool) :
    node.next good ∈ node.successors ∨ node.onFailure? = some (node.next good) := by
  cases node <;> cases good <;> simp [next, successors, onFailure?]

/-- Whatever is to become of a node, it may go so, unless it is a decision on the flag. -/
theorem exists_mayGo (flag : Text) (there wanted : Bool) (node : Node) : ∃ good, node.MayGo flag there good ∧
    (good = wanted ∨ ∃ thenTo elseTo, node = .decision node.name flag thenTo elseTo) := by
  cases node with
  | decision name path thenTo elseTo =>
    by_cases hpath : path = flag
    · subst hpath
      exact ⟨there, fun _ => rfl, .inr ⟨thenTo, elseTo, rfl⟩⟩
    · exact ⟨wanted, fun h => absurd h hpath, .inl rfl⟩
  | _ => exact ⟨wanted, trivial, .inl rfl⟩

theorem leaves_failed (flag : Text) (there : Bool) (node : Node) : node.leaves flag there false = there := by
  cases node <;> simp [leaves]

end Node

namespace Workflow

/-- What is left of a run at a place: the visits that it still makes, the fixed node that it ends at, and whether the
flag is there before and after. -/
inductive Run (workflow : Workflow) (flag : Text) : Text → Bool → List Visit → Text → Bool → Prop
  | finish {place : Text} {there : Bool} (h : isFixedName place = true) : Run workflow flag place there [] place there
  | visit {place finish : Text} {there good after : Bool} {node : Node} {visits : List Visit}
    (free : isFixedName place = false) (lookup : workflow.node? place = some node) (go : node.MayGo flag there good)
    (rest : Run workflow flag (node.next good) (node.leaves flag there good) visits finish after) :
    Run workflow flag place there (⟨place, good⟩ :: visits) finish after

/-- A run that is over. -/
structure PastRun where
  visits : List Visit
  finish : Text
deriving DecidableEq, Repr

/-- Runs from the start one after the other, and whether the flag is there after them.  It is not there at first. -/
inductive History (workflow : Workflow) (flag : Text) : List PastRun → Bool → Prop
  | none : History workflow flag [] false
  | more {runs : List PastRun} {visits : List Visit} {finish : Text} {there after : Bool}
    (past : History workflow flag runs there) (run : workflow.Run flag workflow.start there visits finish after) :
    History workflow flag (runs ++ [⟨visits, finish⟩]) after

def PastRun.log (runs : List PastRun) : List Visit := runs.flatMap PastRun.visits

@[simp] theorem PastRun.log_nil : log [] = [] := rfl

@[simp] theorem PastRun.log_append (runs runs' : List PastRun) : log (runs ++ runs') = log runs ++ log runs' :=
  List.flatMap_append

@[simp] theorem PastRun.log_singleton (run : PastRun) : log [run] = run.visits := List.flatMap_singleton _ _

/-- What stands in two lists on end stands in the first or in the second. -/
theorem splits_append {first second front back : List Visit} {visit : Visit}
    (h : first ++ second = front ++ visit :: back) :
    (∃ rest, first = front ++ visit :: rest ∧ back = rest ++ second) ∨
      ∃ rest, front = first ++ rest ∧ second = rest ++ visit :: back := by
  rcases List.append_eq_append_iff.1 h with ⟨rest, rfl, hsecond⟩ | ⟨rest, rfl, hback⟩
  · exact .inr ⟨rest, rfl, hsecond⟩
  · cases rest with
    | nil => exact .inr ⟨[], by simp, hback.symm⟩
    | cons next rest =>
      rw [List.cons_append, List.cons.injEq] at hback
      obtain ⟨rfl, rfl⟩ := hback
      exact .inl ⟨rest, rfl, rfl⟩

variable {workflow : Workflow} {flag place finish : Text} {there after : Bool} {visits : List Visit} {node : Node}

/-! ## One step of a run -/

namespace Run

theorem fixed_iff (h : isFixedName place = true) :
    workflow.Run flag place there visits finish after ↔ visits = [] ∧ finish = place ∧ after = there := by
  constructor
  · rintro (- | ⟨free, -, -, -⟩)
    · exact ⟨rfl, rfl, rfl⟩
    · rw [h] at free
      cases free
  · rintro ⟨rfl, rfl, rfl⟩
    exact .finish h

theorem node_iff (free : isFixedName place = false) (lookup : workflow.node? place = some node) :
    workflow.Run flag place there visits finish after ↔ ∃ good rest, visits = ⟨place, good⟩ :: rest ∧
      node.MayGo flag there good ∧ workflow.Run flag (node.next good) (node.leaves flag there good) rest finish after := by
  constructor
  · rintro (hfixed | ⟨-, hlookup, go, rest⟩)
    · rw [free] at hfixed
      cases hfixed
    · rw [lookup, Option.some_inj] at hlookup
      subst hlookup
      exact ⟨_, _, rfl, go, rest⟩
  · rintro ⟨good, rest, rfl, go, hrest⟩
    exact .visit free lookup go hrest

/-- What can fail ends the run when it does, and leads on when it does not. -/
theorem failing_iff (free : isFixedName place = false) (lookup : workflow.node? place = some node)
    (h : node.onFailure? = some failName) :
    workflow.Run flag place there visits finish after ↔
      (visits = [⟨place, false⟩] ∧ finish = failName ∧ after = there) ∨
        ∃ rest, visits = ⟨place, true⟩ :: rest ∧
          workflow.Run flag (node.next true) (node.leaves flag there true) rest finish after := by
  have hfail : node.next false = failName := by cases node <;> first | rfl | cases h
  have hgo (good : Bool) : node.MayGo flag there good := by cases node <;> trivial
  rw [node_iff free lookup]
  constructor
  · rintro ⟨good, rest, rfl, -, hrest⟩
    cases good with
    | false =>
      rw [hfail, Node.leaves_failed, fixed_iff rfl] at hrest
      exact .inl ⟨by rw [hrest.1], hrest.2⟩
    | true => exact .inr ⟨rest, rfl, hrest⟩
  · rintro (⟨rfl, hfinish, hafter⟩ | ⟨rest, rfl, hrest⟩)
    · refine ⟨false, [], rfl, hgo false, ?_⟩
      rw [hfail, Node.leaves_failed, fixed_iff rfl]
      exact ⟨rfl, hfinish, hafter⟩
    · exact ⟨true, rest, rfl, hgo true, hrest⟩

theorem decision_iff {thenTo elseTo : Text} (free : isFixedName place = false)
    (lookup : workflow.node? place = some (.decision place flag thenTo elseTo)) :
    workflow.Run flag place there visits finish after ↔ ∃ rest, visits = ⟨place, there⟩ :: rest ∧
      workflow.Run flag (if there then thenTo else elseTo) there rest finish after := by
  rw [node_iff free lookup]
  constructor
  · rintro ⟨good, rest, rfl, hgo, hrest⟩
    obtain rfl := hgo rfl
    exact ⟨rest, rfl, hrest⟩
  · rintro ⟨rest, rfl, hrest⟩
    exact ⟨there, rest, rfl, fun _ => rfl, hrest⟩

end Run

/-! ## Runs and histories exist -/

/-- Every visited node goes as it is wanted to, by its name; a decision on the flag is not asked. -/
def Follows (workflow : Workflow) (flag : Text) (wanted : Text → Bool) (visits : List Visit) : Prop :=
  ∀ visit ∈ visits, visit.good = wanted visit.node ∨
    ∃ thenTo elseTo, workflow.node? visit.node = some (.decision visit.node flag thenTo elseTo)

/-- What is to become of the nodes leaves no choice to a run. -/
theorem Run.unique {wanted : Text → Bool} (h : workflow.Run flag place there visits finish after)
    (hfollows : workflow.Follows flag wanted visits) : ∀ {visits' : List Visit} {finish' : Text} {after' : Bool},
    workflow.Run flag place there visits' finish' after' → workflow.Follows flag wanted visits' →
      visits' = visits ∧ finish' = finish ∧ after' = after := by
  induction h with
  | finish hfixed =>
    intro visits' finish' after' h' _
    exact (Run.fixed_iff hfixed).1 h'
  | @visit place finish there good after node visits free lookup go rest ih =>
    intro visits' finish' after' h' hfollows'
    obtain ⟨good', rest', rfl, go', hrest'⟩ := (Run.node_iff free lookup).1 h'
    rw [Follows, List.forall_mem_cons] at hfollows hfollows'
    -- a decision on the flag follows no wish, but both runs ask the same flag
    have hdecision : (∃ thenTo elseTo, workflow.node? place = some (.decision place flag thenTo elseTo)) →
        good' = good := by
      rintro ⟨thenTo, elseTo, hnode⟩
      obtain rfl := Option.some_inj.1 (lookup.symm.trans hnode)
      exact (go' rfl).trans (go rfl).symm
    have hgood : good' = good := by
      rcases hfollows.1 with hwanted | hnode
      · rcases hfollows'.1 with hwanted' | hnode
        · exact hwanted'.trans hwanted.symm
        · exact hdecision hnode
      · exact hdecision hnode
    subst hgood
    obtain ⟨rfl, hend⟩ := ih hfollows.2 hrest' hfollows'.2
    exact ⟨rfl, hend⟩

open NodeList (LeadsTo Defined)

theorem exists_run_from (hsound : NodeList.Sound workflow.start workflow.nodes) (flag : Text) (wanted : Text → Bool) :
    ∀ (k : Nat) (place : Text) (there : Bool) (path : List Text), (path ++ [place]).IsChain (LeadsTo workflow.nodes) →
      workflow.nodes.length + 1 ≤ k + path.length → Defined workflow.nodes place →
      ∃ visits finish after, workflow.Run flag place there visits finish after ∧ workflow.Follows flag wanted visits
  -- the induction is on the nodes that the path may still come to: it never meets one twice, for the graph is acyclic
  | 0, place, there, path, hpath, hk, _ => by
    have hshort := NodeList.length_le_of_isChain hsound.acyclic hpath
    rw [List.length_append, List.length_singleton] at hshort
    omega
  | k + 1, place, there, path, hpath, hk, hdefined => by
    cases hfixed : isFixedName place with
    | true => exact ⟨[], place, there, .finish hfixed, nofun⟩
    | false =>
      obtain ⟨node, hnode, rfl⟩ := List.mem_map.1 (hdefined.resolve_left (by simp [hfixed]))
      have hlookup := (navigable_of_sound hsound).lookup node hnode
      obtain ⟨good, hgo, hwanted⟩ := node.exists_mayGo flag there (wanted node.name)
      obtain ⟨visits, finish, after, hrest, hfollows⟩ :
          ∃ visits finish after, workflow.Run flag (node.next good) (node.leaves flag there good) visits finish after ∧
            workflow.Follows flag wanted visits := by
        rcases node.next_declared good with hnext | hfail
        · refine exists_run_from hsound flag wanted k _ _ (path ++ [node.name]) ?_ ?_ (hsound.defined node hnode _ hnext)
          · refine List.isChain_append.2 ⟨hpath, by simp, ?_⟩
            rintro x hx y hy
            simp only [List.getLast?_concat, List.head?_singleton, Option.mem_some_iff] at hx hy
            subst hx hy
            exact ⟨node, hnode, rfl, hnext⟩
          · rw [List.length_append, List.length_singleton]
            omega
        · have hfail : isFixedName (node.next good) = true := by
            cases node <;> simp only [Node.onFailure?, Option.some_inj, reduceCtorEq] at hfail <;> rw [← hfail] <;> rfl
          exact ⟨[], _, _, .finish hfail, nofun⟩
      refine ⟨_, _, _, .visit hfixed hlookup hgo hrest, List.forall_mem_cons.2 ⟨?_, hfollows⟩⟩
      rw [hlookup]
      simpa using hwanted

/-- **A workflow with a sound graph has a run, whatever is to become of its nodes.** -/
theorem exists_run (hsound : NodeList.Sound workflow.start workflow.nodes) (flag : Text) (there : Bool)
    (wanted : Text → Bool) :
    ∃ visits finish after, workflow.Run flag workflow.start there visits finish after ∧
      workflow.Follows flag wanted visits :=
  exists_run_from hsound flag wanted (workflow.nodes.length + 1) workflow.start there [] (by simp) (by simp)
    (.inr hsound.start_listed)

/-- **And a history of any length**, with what is to become of the nodes told for each run. -/
theorem exists_history (hsound : NodeList.Sound workflow.start workflow.nodes) (flag : Text)
    (wanted : List (Text → Bool)) :
    ∃ runs there, workflow.History flag runs there ∧
      List.Forall₂ (fun wanted run => workflow.Follows flag wanted run.visits) wanted runs := by
  induction wanted using List.reverseRecOn with
  | nil => exact ⟨[], false, .none, .nil⟩
  | append_singleton wanted last ih =>
    obtain ⟨runs, there, hpast, hfollows⟩ := ih
    obtain ⟨visits, finish, after, hrun, hlast⟩ := exists_run hsound flag there last
    exact ⟨_, _, .more hpast hrun, List.rel_append hfollows (.cons hlast .nil)⟩

end Workflow
end ImportDispatch

import ImportDispatch.Proofs.Workflow.Runs
import ImportDispatch.Proofs.Workflow.Shapes
/-!
# The runs of a saved job

What each node of a recurring import does is fixed by its role (`SavedJob.Serves`).  A run takes one of six courses
(`SavedJob.run_iff`), by whether it finds the flag and by what fails.  Over a history of runs the flag stands for what was
done before: it is there only if the job was saved, and it stays once it was set.
-/
namespace ImportDispatch

open Workflow (PastRun)

/-- What the workflow of a recurring import is made from. -/
structure SavedJob where
  name : Text
  flagPath : Text
  overwrite : Bool
  /-- The command that saves the job. -/
  save : CommandLine
  /-- The command that runs the saved job. -/
  run : CommandLine
deriving DecidableEq, Repr

namespace SavedJob

def draft (job : SavedJob) : WorkflowDraft :=
  recurringDraft job.name job.flagPath job.overwrite job.save job.run

def workflow (job : SavedJob) : Workflow :=
  ⟨appName job.name, nodeName job.name "decision", standardKillMessage, job.draft.nodes⟩

theorem build_draft (job : SavedJob) : job.draft.build = .ok job.workflow := build_recurring ..

theorem sound_workflow (job : SavedJob) : NodeList.Sound job.workflow.start job.workflow.nodes := sound_recurring ..

/-! ## Nodes -/

variable (job : SavedJob)

theorem node?_of_mem {node : Node} (h : node ∈ job.draft.nodes) : job.workflow.node? node.name = some node :=
  (Workflow.navigable_of_sound job.sound_workflow).lookup node h

theorem node?_decision : job.workflow.node? (nodeName job.name "decision") =
    some (.decision (nodeName job.name "decision") job.flagPath
      (nodeName job.name (if job.overwrite then "cleanup" else "exec")) (nodeName job.name "create")) :=
  job.node?_of_mem List.mem_cons_self

theorem node?_create : job.workflow.node? (nodeName job.name "create") =
    some (jobAction (nodeName job.name "create") job.save (nodeName job.name "flag")) :=
  job.node?_of_mem (List.mem_cons_of_mem _ List.mem_cons_self)

theorem node?_flag : job.workflow.node? (nodeName job.name "flag") =
    some (.touch (nodeName job.name "flag") job.flagPath (nodeName job.name "exec")) :=
  job.node?_of_mem (List.mem_cons_of_mem _ (List.mem_cons_of_mem _ List.mem_cons_self))

theorem node?_cleanup (h : job.overwrite = true) : job.workflow.node? (nodeName job.name "cleanup") =
    some (.remove (nodeName job.name "cleanup") targetDirVariable (nodeName job.name "exec")) := by
  have hmem : .remove (nodeName job.name "cleanup") targetDirVariable (nodeName job.name "exec") ∈ job.draft.nodes := by
    simp [draft, recurringDraft, h]
  exact job.node?_of_mem hmem

theorem node?_exec : job.workflow.node? (nodeName job.name "exec") =
    some (jobAction (nodeName job.name "exec") job.run endName) :=
  job.node?_of_mem (List.mem_append_right _ List.mem_cons_self)

/-- What the nodes of a workflow do for a saved job. -/
structure Serves (job : SavedJob) (workflow : Workflow) : Prop where
  start : workflow.start = nodeName job.name "decision"
  decision : workflow.node? (nodeName job.name "decision") = some (.decision (nodeName job.name "decision") job.flagPath
    (nodeName job.name (if job.overwrite then "cleanup" else "exec")) (nodeName job.name "create"))
  create : workflow.node? (nodeName job.name "create") = some (.action (nodeName job.name "create") job.save.text
    [connectionParamsFile] (nodeName job.name "flag"))
  flag : workflow.node? (nodeName job.name "flag") =
    some (.touch (nodeName job.name "flag") job.flagPath (nodeName job.name "exec"))
  exec : workflow.node? (nodeName job.name "exec") =
    some (.action (nodeName job.name "exec") job.run.text [connectionParamsFile] endName)
  cleanup : job.overwrite = true → workflow.node? (nodeName job.name "cleanup") =
    some (.remove (nodeName job.name "cleanup") targetDirVariable (nodeName job.name "exec"))
  /-- There are no other nodes. -/
  only : ∀ place node, workflow.node? place = some node →
    (∃ role ∈ ["decision", "create", "flag", "exec"], place = nodeName job.name role) ∨
      job.overwrite = true ∧ place = nodeName job.name "cleanup"

theorem serves_workflow : job.Serves job.workflow where
  start := rfl
  decision := job.node?_decision
  create := job.node?_create
  flag := job.node?_flag
  exec := job.node?_exec
  cleanup := job.node?_cleanup
  only place node hnode := by
    have hmem : node ∈ job.draft.nodes := List.mem_of_find?_eq_some hnode
    obtain rfl : node.name = place := by simpa using List.find?_some hnode
    cases hoverwrite : job.overwrite <;>
      simp only [draft, recurringDraft, hoverwrite, Bool.false_eq_true, if_true, if_false, List.cons_append,
        List.nil_append, List.append_nil, List.mem_cons, List.not_mem_nil, or_false] at hmem
    · rcases hmem with rfl | rfl | rfl | rfl <;> simp [Node.name, jobAction]
    · rcases hmem with rfl | rfl | rfl | rfl | rfl <;> simp [Node.name, jobAction]

/-! ## Courses -/

def seen (role : String) (good : Bool) : Visit := ⟨nodeName job.name role, good⟩

@[simp] theorem seen_inj {role role' : String} {good good' : Bool} :
    job.seen role good = job.seen role' good' ↔ role = role' ∧ good = good' := by
  simp [seen]

/-- Where a run ends that has come to run the saved job. -/
def lastStop (good : Bool) : Text := if good then endName else failName

/-- The courses that a run can take: whether the flag is there, what is visited, where the run ends, and whether the flag
is there then. -/
inductive Course : Bool → List Visit → Text → Bool → Prop
  | unsaved : Course false [job.seen "decision" false, job.seen "create" false] failName false
  | unmarked : Course false [job.seen "decision" false, job.seen "create" true, job.seen "flag" false] failName false
  | first (good : Bool) : Course false
      [job.seen "decision" false, job.seen "create" true, job.seen "flag" true, job.seen "exec" good] (lastStop good) true
  | again (good : Bool) (h : job.overwrite = false) :
    Course true [job.seen "decision" true, job.seen "exec" good] (lastStop good) true
  | uncleaned (h : job.overwrite = true) :
    Course true [job.seen "decision" true, job.seen "cleanup" false] failName true
  | replaced (good : Bool) (h : job.overwrite = true) :
    Course true [job.seen "decision" true, job.seen "cleanup" true, job.seen "exec" good] (lastStop good) true

variable {job} {there after : Bool} {visits : List Visit} {finish : Text}

open Workflow (Run)

theorem run_exec_iff : job.workflow.Run job.flagPath (nodeName job.name "exec") there visits finish after ↔
    ∃ good, visits = [job.seen "exec" good] ∧ finish = lastStop good ∧ after = there := by
  rw [Run.failing_iff (isFixedName_nodeName ..) job.node?_exec rfl, Bool.exists_bool]
  refine or_congr_right ⟨?_, ?_⟩
  · rintro ⟨rest, rfl, hrest⟩
    obtain ⟨rfl, hfinish⟩ := (Run.fixed_iff rfl).1 hrest
    exact ⟨rfl, hfinish⟩
  · rintro ⟨rfl, hfinish⟩
    exact ⟨[], rfl, (Run.fixed_iff rfl).2 ⟨rfl, hfinish⟩⟩

theorem run_flag_iff : job.workflow.Run job.flagPath (nodeName job.name "flag") there visits finish after ↔
    (visits = [job.seen "flag" false] ∧ finish = failName ∧ after = there) ∨
      ∃ good, visits = [job.seen "flag" true, job.seen "exec" good] ∧ finish = lastStop good ∧ after = true := by
  rw [Run.failing_iff (isFixedName_nodeName ..) job.node?_flag rfl]
  refine or_congr_right ⟨?_, ?_⟩
  · rintro ⟨rest, rfl, hrest⟩
    obtain ⟨good, rfl, hfinish, rfl⟩ := run_exec_iff.1 hrest
    exact ⟨good, rfl, hfinish, by simp [Node.leaves]⟩
  · rintro ⟨good, rfl, hfinish, rfl⟩
    exact ⟨_, rfl, run_exec_iff.2 ⟨good, rfl, hfinish, by simp [Node.leaves]⟩⟩

theorem run_create_iff : job.workflow.Run job.flagPath (nodeName job.name "create") there visits finish after ↔
    (visits = [job.seen "create" false] ∧ finish = failName ∧ after = there) ∨
      ∃ rest, visits = job.seen "create" true :: rest ∧
        job.workflow.Run job.flagPath (nodeName job.name "flag") there rest finish after :=
  Run.failing_iff (isFixedName_nodeName ..) job.node?_create rfl

theorem run_cleanup_iff (h : job.overwrite = true) :
    job.workflow.Run job.flagPath (nodeName job.name "cleanup") there visits finish after ↔
      (visits = [job.seen "cleanup" false] ∧ finish = failName ∧ after = there) ∨
        ∃ rest, visits = job.seen "cleanup" true :: rest ∧
          job.workflow.Run job.flagPath (nodeName job.name "exec") there rest finish after :=
  Run.failing_iff (isFixedName_nodeName ..) (job.node?_cleanup h) rfl

theorem run_decision_iff : job.workflow.Run job.flagPath job.workflow.start there visits finish after ↔
    ∃ rest, visits = job.seen "decision" there :: rest ∧ job.workflow.Run job.flagPath
      (nodeName job.name (if there then if job.overwrite then "cleanup" else "exec" else "create")) there rest finish
      after := by
  rw [apply_ite (nodeName job.name)]
  exact Run.decision_iff (isFixedName_nodeName ..) job.node?_decision

/-- **The runs of a saved job take the six courses**, and no others. -/
theorem run_iff : job.workflow.Run job.flagPath job.workflow.start there visits finish after ↔
    job.Course there visits finish after := by
  rw [run_decision_iff]
  constructor
  · rintro ⟨rest, rfl, hrest⟩
    cases there with
    | false =>
      rcases run_create_iff.1 hrest with ⟨rfl, rfl, rfl⟩ | ⟨rest, rfl, hflag⟩
      · exact .unsaved
      rcases run_flag_iff.1 hflag with ⟨rfl, rfl, rfl⟩ | ⟨good, rfl, rfl, rfl⟩
      · exact .unmarked
      · exact .first good
    | true =>
      by_cases h : job.overwrite = true
      · rw [if_pos rfl, if_pos h] at hrest
        rcases (run_cleanup_iff h).1 hrest with ⟨rfl, rfl, rfl⟩ | ⟨rest, rfl, hexec⟩
        · exact .uncleaned h
        obtain ⟨good, rfl, rfl, rfl⟩ := run_exec_iff.1 hexec
        exact .replaced good h
      · rw [if_pos rfl, if_neg h] at hrest
        obtain ⟨good, rfl, rfl, rfl⟩ := run_exec_iff.1 hrest
        exact .again good (by simpa using h)
  · intro h
    cases h with
    | unsaved => exact ⟨_, rfl, run_create_iff.2 (.inl ⟨rfl, rfl, rfl⟩)⟩
    | unmarked => exact ⟨_, rfl, run_create_iff.2 (.inr ⟨_, rfl, run_flag_iff.2 (.inl ⟨rfl, rfl, rfl⟩)⟩)⟩
    | first good => exact ⟨_, rfl, run_create_iff.2 (.inr ⟨_, rfl, run_flag_iff.2 (.inr ⟨good, rfl, rfl, rfl⟩)⟩)⟩
    | again good h =>
      refine ⟨_, rfl, ?_⟩
      rw [if_pos rfl, if_neg (by simp [h])]
      exact run_exec_iff.2 ⟨good, rfl, rfl, rfl⟩
    | uncleaned h =>
      refine ⟨_, rfl, ?_⟩
      rw [if_pos rfl, if_pos h]
      exact (run_cleanup_iff h).2 (.inl ⟨rfl, rfl, rfl⟩)
    | replaced good h =>
      refine ⟨_, rfl, ?_⟩
      rw [if_pos rfl, if_pos h]
      exact (run_cleanup_iff h).2 (.inr ⟨_, rfl, run_exec_iff.2 ⟨good, rfl, rfl, rfl⟩⟩)

/-! ## Where the courses pass -/

variable {front back : List Visit} {good : Bool}

theorem not_removes (h : job.overwrite = false) (place name path next : Text) :
    job.workflow.node? place ≠ some (.remove name path next) := by
  intro hnode
  -- the place need not be a name of the workflow, so the node is found in the draft and not by its role
  have hmem : .remove name path next ∈ job.draft.nodes := List.mem_of_find?_eq_some hnode
  have hoverwrite := (removes_recurring job.name job.flagPath job.overwrite job.save job.run).1 ⟨name, path, next, hmem⟩
  rw [h] at hoverwrite
  cases hoverwrite

/-- What a course has behind it when it comes to run the saved job, with which it ends. -/
theorem Course.before_exec (h : job.Course there visits finish after)
    (hvisits : visits = front ++ job.seen "exec" good :: back) : back = [] ∧ finish = lastStop good ∧
      ((there = false ∧ front = [job.seen "decision" false, job.seen "create" true, job.seen "flag" true]) ∨
        (there = true ∧ job.overwrite = false ∧ front = [job.seen "decision" true]) ∨
        (there = true ∧ job.overwrite = true ∧ front = [job.seen "decision" true, job.seen "cleanup" true])) := by
  cases h <;> simp_all [List.cons_eq_append_iff]

theorem Course.around_flag (h : job.Course there visits finish after)
    (hvisits : visits = front ++ job.seen "flag" true :: back) :
    there = false ∧ after = true ∧ front = [job.seen "decision" false, job.seen "create" true] ∧
      ∃ good, back = [job.seen "exec" good] := by
  cases h <;> simp_all [List.cons_eq_append_iff]

/-- A course that finds the flag leaves it there, and does not save the job. -/
theorem Course.found (h : job.Course true visits finish after) :
    after = true ∧ ∀ good, job.seen "create" good ∉ visits := by
  cases h <;> simp

/-- A course that leaves the flag has found it, or has saved the job and set it. -/
theorem Course.saved (h : job.Course there visits finish true) :
    there = true ∨ job.seen "create" true ∈ visits := by
  cases h <;> simp

theorem lastStop_cases (good : Bool) : lastStop good = endName ∨ lastStop good = failName := by
  cases good
  · exact .inr rfl
  · exact .inl rfl

theorem lastStop_eq_endName {good : Bool} : lastStop good = endName ↔ true = good := by
  cases good <;> decide

theorem Course.run_once (h : job.Course there visits finish after) :
    visits.countP (·.node == nodeName job.name "exec") ≤ 1 := by
  cases h <;> simp [seen]

/-- A course ends well exactly if the saved job was run and that went well. -/
theorem Course.ends (h : job.Course there visits finish after) :
    (finish = endName ∨ finish = failName) ∧ (finish = endName ↔ job.seen "exec" true ∈ visits) := by
  have hapart : failName ≠ endName := by decide
  constructor
  · cases h with
    | unsaved | unmarked | uncleaned h => exact .inr rfl
    | first good | again good h | replaced good h => exact lastStop_cases good
  · cases h <;> simp [hapart, lastStop_eq_endName]

/-! ## Histories -/

/-- What a history of runs keeps to. -/
structure KeepsOrder (job : SavedJob) (workflow : Workflow) (runs : List PastRun) : Prop where
  /-- The job is run only after it was saved, in the same run or in one before. -/
  saved_before : ∀ front good back, PastRun.log runs = front ++ job.seen "exec" good :: back →
    job.seen "create" true ∈ front
  /-- After the flag was set the job is never saved again. -/
  saved_once : ∀ front back, PastRun.log runs = front ++ job.seen "flag" true :: back →
    ∀ good, job.seen "create" good ∉ back
  /-- A run runs the job at most once. -/
  run_once : ∀ run ∈ runs, run.visits.countP (·.node == nodeName job.name "exec") ≤ 1
  /-- A run ends well exactly if the job was run and that went well, and fails otherwise. -/
  ends : ∀ run ∈ runs, (run.finish = endName ∨ run.finish = failName) ∧
    (run.finish = endName ↔ job.seen "exec" true ∈ run.visits)
  /-- With the cleanup, a run that finds the flag runs the job right after a node that has removed the target
  directory. -/
  removed_before : job.overwrite = true → ∀ run ∈ runs, job.seen "decision" true ∈ run.visits →
    ∀ front good back, run.visits = front ++ job.seen "exec" good :: back →
      ∃ before place name next, front = before ++ [⟨place, true⟩] ∧
        workflow.node? place = some (.remove name targetDirVariable next)
  /-- Without it nothing is ever removed. -/
  nothing_removed : job.overwrite = false → ∀ run ∈ runs, ∀ visit ∈ run.visits, ∀ name path next,
    workflow.node? visit.node ≠ some (.remove name path next)

/-- What the flag tells of the runs before: it is there only if the job was saved, and it is there if it was set. -/
structure Remembers (job : SavedJob) (runs : List PastRun) (there : Bool) : Prop where
  saved : there = true → job.seen "create" true ∈ PastRun.log runs
  marked : job.seen "flag" true ∈ PastRun.log runs → there = true

variable {runs : List PastRun}

theorem Remembers.more (hpast : job.Remembers runs there) (h : job.Course there visits finish after) :
    job.Remembers (runs ++ [⟨visits, finish⟩]) after where
  saved hafter := by
    subst hafter
    rw [PastRun.log_append, PastRun.log_singleton, List.mem_append]
    exact h.saved.imp_left hpast.saved
  marked hmarked := by
    rw [PastRun.log_append, PastRun.log_singleton, List.mem_append] at hmarked
    rcases hmarked with hmarked | hmarked
    · obtain rfl := hpast.marked hmarked
      exact h.found.1
    · obtain ⟨front, back, hvisits⟩ := List.append_of_mem hmarked
      exact (h.around_flag hvisits).2.1

theorem KeepsOrder.nil (job : SavedJob) : job.KeepsOrder job.workflow [] where
  saved_before := by simp
  saved_once := by simp
  run_once := nofun
  ends := nofun
  removed_before _ := nofun
  nothing_removed _ := nofun

theorem KeepsOrder.more (horder : job.KeepsOrder job.workflow runs) (hpast : job.Remembers runs there)
    (h : job.Course there visits finish after) : job.KeepsOrder job.workflow (runs ++ [⟨visits, finish⟩]) where
  saved_before front good back hlog := by
    rw [PastRun.log_append, PastRun.log_singleton] at hlog
    rcases Workflow.splits_append hlog with ⟨rest, hbefore, -⟩ | ⟨rest, rfl, hvisits⟩
    · exact horder.saved_before _ _ _ hbefore
    rw [List.mem_append]
    rcases (h.before_exec hvisits).2.2 with ⟨-, rfl⟩ | ⟨hfound, -⟩ | ⟨hfound, -⟩
    · exact .inr (by simp)
    · exact .inl (hpast.saved hfound)
    · exact .inl (hpast.saved hfound)
  saved_once front back hlog good := by
    rw [PastRun.log_append, PastRun.log_singleton] at hlog
    rcases Workflow.splits_append hlog with ⟨rest, hbefore, rfl⟩ | ⟨rest, -, hvisits⟩
    · -- a flag that was set before this run is found by it
      obtain rfl := hpast.marked (by simp [hbefore])
      rw [List.mem_append, not_or]
      exact ⟨horder.saved_once _ _ hbefore good, h.found.2 good⟩
    · obtain ⟨-, -, -, _, rfl⟩ := h.around_flag hvisits
      simp
  run_once := List.forall_mem_append.2 ⟨horder.run_once, List.forall_mem_singleton.2 h.run_once⟩
  ends := List.forall_mem_append.2 ⟨horder.ends, List.forall_mem_singleton.2 h.ends⟩
  removed_before hoverwrite := by
    refine List.forall_mem_append.2 ⟨horder.removed_before hoverwrite, List.forall_mem_singleton.2 ?_⟩
    intro hfound front good back hvisits
    obtain ⟨rfl, -, hfront⟩ := h.before_exec hvisits
    rcases hfront with ⟨-, rfl⟩ | ⟨-, hplain, -⟩ | ⟨-, -, rfl⟩
    · -- the course that saves the job has not found the flag
      dsimp only at hvisits hfound
      rw [hvisits] at hfound
      simp at hfound
    · rw [hoverwrite] at hplain
      cases hplain
    · exact ⟨[job.seen "decision" true], _, _, _, rfl, job.node?_cleanup hoverwrite⟩
  nothing_removed hoverwrite _ _ visit _ := not_removes hoverwrite visit.node

/-- Every history keeps to the order, and the flag remembers it. -/
theorem keepsOrder_of_history (h : job.workflow.History job.flagPath runs there) :
    job.KeepsOrder job.workflow runs ∧ job.Remembers runs there := by
  induction h with
  | none => exact ⟨.nil job, nofun, by simp⟩
  | more past run ih =>
    have hcourse := run_iff.1 run
    exact ⟨ih.1.more ih.2 hcourse, ih.2.more hcourse⟩

/-- **Every history of a saved job is in order.**  The workflow of a recurring import is built, whatever its name, its
flag, its mode and its commands are, and its nodes do what their roles say.  It has a history of any length, in which
everything goes as it is told to for each run.  And in every history of it the job is saved before it is run, and never
again after the flag was set; each run runs the job at most once, and ends well exactly if that goes well; and the target
directory is removed before the job is run again if the import replaces the one before, and never if not. -/
theorem history_in_order (job : SavedJob) : ∃ workflow, job.draft.build = .ok workflow ∧ job.Serves workflow ∧
    (∀ node ∈ job.draft.nodes, workflow.node? node.name = some node) ∧
    (∀ wanted : List (Text → Bool), ∃ runs there, workflow.History job.flagPath runs there ∧
      List.Forall₂ (fun wanted run => workflow.Follows job.flagPath wanted run.visits) wanted runs) ∧
    ∀ runs there, workflow.History job.flagPath runs there → job.KeepsOrder workflow runs :=
  ⟨job.workflow, job.build_draft, job.serves_workflow, fun _ => job.node?_of_mem,
    Workflow.exists_history job.sound_workflow job.flagPath, fun _ _ h => (keepsOrder_of_history h).1⟩

end SavedJob
end ImportDispatch

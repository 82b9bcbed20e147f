import ImportDispatch.Proofs.Workflow.Soundness
import ImportDispatch.Workflow.Shapes
/-!
# The two shapes are sound

The nodes of a shape are named after the job and their role, and each leads only to nodes listed behind it.  So the
shapes are workflows, whatever the name of the job and whatever the commands are.
-/
namespace ImportDispatch

open Relation (TransGen)

namespace NodeList

/-- Transitions that only lead on in the list do not lead back. -/
theorem acyclic_of_forward : ∀ {nodes : List Node},
    nodes.Pairwise (fun node later => node.name ∉ later.successors) → (∀ node ∈ nodes, node.name ∉ node.successors) →
      Acyclic nodes
  | [], _, _ => fun x hx => by
    obtain ⟨y, ⟨node, hnode, -⟩, -⟩ := TransGen.head'_iff.1 hx
    cases hnode
  | node :: rest, hforward, hself => fun x hx => by
    -- nothing leads to the first node, so a way back to `x` never comes by there
    have hfirst : ∀ {u v : Text}, TransGen (LeadsTo (node :: rest)) u v → v ≠ node.name := by
      rintro u v h rfl
      obtain ⟨w, -, other, hother, -, hsuccessor⟩ := TransGen.tail'_iff.1 h
      rcases List.mem_cons.1 hother with rfl | hother
      · exact hself other List.mem_cons_self hsuccessor
      · exact List.rel_of_pairwise_cons hforward hother hsuccessor
    have hstep : ∀ {u v : Text}, u ≠ node.name → LeadsTo (node :: rest) u v → LeadsTo rest u v := by
      rintro u v hu ⟨other, hother, rfl, hsuccessor⟩
      exact ⟨other, (List.mem_cons.1 hother).resolve_left fun h => hu (congrArg Node.name h), rfl, hsuccessor⟩
    have hrest : ∀ {u v : Text}, u ≠ node.name → TransGen (LeadsTo (node :: rest)) u v → TransGen (LeadsTo rest) u v := by
      intro u v hu h
      induction h with
      | single h => exact .single (hstep hu h)
      | tail hfront h ih => exact ih.tail (hstep (hfirst hfront) h)
    exact acyclic_of_forward hforward.of_cons (fun other hother => hself other (List.mem_cons_of_mem _ hother)) x
      (hrest (hfirst hx) hx)

end NodeList

/-! ## Names -/

@[simp] theorem nodeName_inj {name : Text} {role role' : String} :
    nodeName name role = nodeName name role' ↔ role = role' := by
  simp [nodeName, String.toList_inj]

theorem isFixedName_nodeName (name : Text) (role : String) : isFixedName (nodeName name role) = false := by
  have hdash : '-' ∈ nodeName name role := by simp [nodeName]
  have hfixed : '-' ∉ endName ∧ '-' ∉ failName := by decide
  rw [isFixedName, Bool.or_eq_false_iff, beq_eq_false_iff_ne, beq_eq_false_iff_ne]
  exact ⟨fun h => hfixed.1 (h ▸ hdash), fun h => hfixed.2 (h ▸ hdash)⟩

@[simp] theorem nodeName_ne_endName (name : Text) (role : String) : nodeName name role ≠ endName := by
  intro h
  have hfixed := isFixedName_nodeName name role
  rw [h] at hfixed
  cases hfixed

/-! ## Shapes -/

theorem sound_oneShot (name : Text) (command : CommandLine) :
    NodeList.Sound (nodeName name "import") (oneShotDraft name command).nodes := by
  have hend : isFixedName endName = true := rfl
  refine ⟨⟨?_, ?_⟩, ?_, ?_, NodeList.acyclic_of_forward ?_ ?_, ?_, ?_⟩ <;>
    simp [oneShotDraft, jobAction, Node.name, Node.successors, NodeList.Defined, NodeList.Entered,
      isFixedName_nodeName, hend]

/-- The workflow of an import that runs once is always built. -/
theorem build_oneShot (name : Text) (command : CommandLine) :
    (oneShotDraft name command).build = .ok ⟨appName name, nodeName name "import", standardKillMessage,
      (oneShotDraft name command).nodes⟩ :=
  WorkflowDraft.build_eq_ok.2 ⟨_, _, rfl, rfl, sound_oneShot name command, rfl⟩

theorem sound_recurring (name flagPath : Text) (overwrite : Bool) (save run : CommandLine) :
    NodeList.Sound (nodeName name "decision") (recurringDraft name flagPath overwrite save run).nodes := by
  have hend : isFixedName endName = true := rfl
  -- with or without the cleanup, each part of soundness is a look at the listed nodes
  cases overwrite <;> refine ⟨⟨?_, ?_⟩, ?_, ?_, NodeList.acyclic_of_forward ?_ ?_, ?_, ?_⟩ <;>
    simp [recurringDraft, jobAction, Node.name, Node.successors, NodeList.Defined, NodeList.Entered,
      isFixedName_nodeName, hend]

/-- The workflow of a recurring import is always built. -/
theorem build_recurring (name flagPath : Text) (overwrite : Bool) (save run : CommandLine) :
    (recurringDraft name flagPath overwrite save run).build = .ok ⟨appName name, nodeName name "decision",
      standardKillMessage, (recurringDraft name flagPath overwrite save run).nodes⟩ :=
  WorkflowDraft.build_eq_ok.2 ⟨_, _, rfl, rfl, sound_recurring name flagPath overwrite save run, rfl⟩

theorem removes_recurring (name flagPath : Text) (overwrite : Bool) (save run : CommandLine) :
    (∃ node path next, .remove node path next ∈ (recurringDraft name flagPath overwrite save run).nodes) ↔
      overwrite = true := by
  cases overwrite <;> simp [recurringDraft, jobAction]

end ImportDispatch

import ImportDispatch.Engine.Remote
import ImportDispatch.Proofs.Markup.WellFormed
import ImportDispatch.Proofs.Service.FlagFile
import ImportDispatch.Zone.Selection
/-!
# What the engine reads

The engine gets three kinds of documents: workflows, coordinators and the configurations that jobs are started with.  Their
names are fixed, and their texts come from clients and from the deployment.  A conforming reader accepts each of them
exactly if all characters in it are legal, and finds the values that were meant exactly if, besides, no value holds a tab
or a line end and no content a carriage return (`conforming_reading`).  The rules for jobs let such characters into a name
(`not_reads_back`).
-/
namespace ImportDispatch

open Markup
open Markup.Conforming (IsLegal KeptContent KeptValue inLine lineEnds)

/-! ## The three kinds -/

theorem Workflow.isReadFrom (workflow : Workflow) : workflow.element.IsReadFrom workflow.document := by
  have hnamed : WellNamed workflow.element.steps := by
    rw [workflow.steps_element]
    exact workflow.wellNamed
  rw [workflow.document_element]
  exact Element.isReadFrom hnamed

theorem Coordinator.isReadFrom (coordinator : Coordinator) : coordinator.element.IsReadFrom coordinator.document :=
  Element.isReadFrom coordinator.wellNamed

namespace Deployment

def configurationElement (deployment : Deployment) (pathKey appDir targetDir : Text) : Element :=
  .nested "configuration".toList [] (propertyElement "user.name".toList deployment.user)
    [propertyElement pathKey appDir, propertyElement "jobTracker".toList deployment.jobTracker,
      propertyElement "nameNode".toList deployment.nameNode, propertyElement "targetDir".toList targetDir,
      propertyElement "oozie.use.system.libpath".toList "true".toList]

theorem wellNamed_configurationSteps (deployment : Deployment) (pathKey appDir targetDir : Text) :
    WellNamed (deployment.configurationSteps pathKey appDir targetDir) := by
  have hblank : WellNamed (configurationSteps ⟨[], [], [], [], []⟩ [] [] []) := by decide
  exact hblank

theorem configuration_isReadFrom (deployment : Deployment) (pathKey appDir targetDir : Text) :
    (deployment.configurationElement pathKey appDir targetDir).IsReadFrom
      (deployment.configurationDocument pathKey appDir targetDir) :=
  Element.isReadFrom (deployment.wellNamed_configurationSteps pathKey appDir targetDir)

end Deployment

/-! ## All that is written -/

/-- **What a conforming reader makes of what is written**: of a text as a content and as the value of an attribute, and
of a workflow, a coordinator and a configuration. -/
theorem conforming_reading (s : Text) (workflow : Workflow) (coordinator : Coordinator) (deployment : Deployment)
    (kind : JobKind) (appDir targetDir : Text) :
    ((Conforming.content? (escapeContent s) = if IsLegal s then some (lineEnds s) else none) ∧
      (Conforming.content? (escapeContent s) = some s ↔ KeptContent s)) ∧
    ((Conforming.value? (escapeAttribute s) = if IsLegal s then some (inLine s) else none) ∧
      (Conforming.value? (escapeAttribute s) = some s ↔ KeptValue s)) ∧
    workflow.element.IsReadFrom workflow.document ∧ coordinator.element.IsReadFrom coordinator.document ∧
    (deployment.configurationElement kind.pathKey appDir targetDir).IsReadFrom
      (deployment.configurationDocument kind.pathKey appDir targetDir) :=
  ⟨⟨Conforming.content?_escapeContent s, Conforming.content?_eq_self⟩,
    ⟨Conforming.value?_escapeAttribute s, Conforming.value?_eq_self⟩, workflow.isReadFrom, coordinator.isReadFrom,
    deployment.configuration_isReadFrom kind.pathKey appDir targetDir⟩

/-- A carriage return is lost from a content, and a tab from a value; and an accepted name can hold a character for which
the whole document is rejected. -/
theorem not_reads_back :
    (¬∀ s, Conforming.content? (escapeContent s) = some s) ∧ (¬∀ s, Conforming.value? (escapeAttribute s) = some s) ∧
      ¬∀ (service : Service DiskState Unit) (workspace : Workspace DiskState) (id : Text) (job : ScheduledJob)
          (normal : JobRequest) (plan : Plan), service.accept (.recurring job) = .ok normal →
        service.plan workspace id normal = .ok plan → (Conforming.element? plan.workflow.document).isSome := by
  refine ⟨fun h => absurd (h ['\r']) (by decide), fun h => absurd (h "one\ttwo".toList) (by decide), fun h => ?_⟩
  have hplace : placeViolations "daily\x01sales".toList "flows/app/".toList = [] := by decide
  obtain ⟨plan, hplan⟩ := @DiskStorage.exists_plan_flaggedJob _ hplace "daily\x01sales-160309-140507".toList (by decide)
  have hread := h _ _ _ _ _ plan (DiskStorage.flaggedJob_accepted hplace) hplan
  obtain ⟨save, run, rfl⟩ := Plan.recurring_ok (Attempt.mapError_eq_ok hplan)
  rw [(Workflow.isReadFrom _).read] at hread
  split at hread
  · rename_i hlegal
    -- the name of the workflow is a value in its first step
    have hname : IsLegal (appName "daily\x01sales".toList) := hlegal _ List.mem_cons_self _ List.mem_cons_self
    exact absurd hname (by decide)
  · cases hread

end ImportDispatch

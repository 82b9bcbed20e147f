import ImportDispatch.Proofs.Markup.Elements
import ImportDispatch.Workflow
/-!
# Reading a workflow

The document of a workflow is a tree of elements, one for each node between the start and what is always there.  From it
the workflow can be read back whole (`Workflow.read_document`), so that two workflows never have one document; and what
is in its texts, be it markup, has no part in the shape of the tree.
-/
namespace ImportDispatch

open Markup

/-! ## The tree of a workflow -/

/-- The elements that follow the work of an action. -/
def transitionElements (next : Text) : List Element :=
  [.empty "ok".toList [attr "to" next], .empty "error".toList [attr "to" failName]]

def fileElement (name : Text) (operation : String) (path next : Text) : Element :=
  .nested "action".toList [attr "name" name]
    (.nested "fs".toList [] (.empty operation.toList [attr "path" path]) []) (transitionElements next)

def Node.element : Node → Element
  | action name command files next =>
    .nested "action".toList [attr "name" name]
      (.nested "sqoop".toList [attr "xmlns" commandNamespace]
        (.text "job-tracker".toList [] "$\x7bjobTracker\x7d".toList)
        (.text "name-node".toList [] "$\x7bnameNode\x7d".toList :: .text "command".toList [] command ::
          files.map (.text "file".toList [])))
      (transitionElements next)
  | decision name path thenTo elseTo =>
    .nested "decision".toList [attr "name" name]
      (.nested "switch".toList [] (.text "case".toList [attr "to" thenTo] (existsCondition path))
        [.empty "default".toList [attr "to" elseTo]])
      []
  | touch name path next => fileElement name "touchz" path next
  | remove name path next => fileElement name "delete" path next

def fixedElements (killMessage : Text) : List Element :=
  [.nested "kill".toList [attr "name" failName] (.text "message".toList [] killMessage) [],
    .empty "end".toList [attr "name" endName]]

def Workflow.element (workflow : Workflow) : Element :=
  .nested "workflow-app".toList [attr "name" workflow.name, attr "xmlns" nameSpace]
    (.empty "start".toList [attr "to" workflow.start])
    (workflow.nodes.map Node.element ++ fixedElements workflow.killMessage)

theorem Node.steps_element (node : Node) : node.element.steps = node.steps := by
  cases node with
  | action name command files next =>
    have hfiles : stepsOfAll (files.map (.text "file".toList [])) = files.flatMap (textElement "file" []) := by
      rw [stepsOfAll_eq_flatMap, List.flatMap_map]
      rfl
    simp only [Node.element, Node.steps, Element.steps, stepsOfAll, hfiles, Markup.element, emptyElement, textElement,
      transitionElements, transitionSteps, List.cons_append, List.nil_append, List.append_assoc, List.append_nil]
  | decision name path thenTo elseTo => rfl
  | touch name path next => rfl
  | remove name path next => rfl

theorem Workflow.steps_element (workflow : Workflow) : workflow.element.steps = workflow.steps := by
  have hnodes : (workflow.nodes.map Node.element).flatMap Element.steps = workflow.nodes.flatMap Node.steps := by
    rw [List.flatMap_map, funext Node.steps_element]
  simp only [Workflow.element, fixedElements, Workflow.steps, Element.steps, stepsOfAll, stepsOfAll_eq_flatMap, hnodes,
    List.flatMap_append, List.flatMap_cons, List.flatMap_nil, Markup.element, emptyElement, textElement,
    List.cons_append, List.nil_append, List.append_assoc, List.append_nil]

/-! ## The reader -/

def conditionFront : Text := "$\x7bfs:exists(\"".toList

def conditionBack : Text := "\") eq true\x7d".toList

def conditionPath? (condition : Text) : Option Text :=
  let path := (condition.drop conditionFront.length).take
    (condition.length - (conditionFront.length + conditionBack.length))
  if conditionFront ++ path ++ conditionBack = condition then some path else none

def content? : Element → Option Text
  | .text _ _ content => some content
  | _ => none

/-- Where an action leads, from what follows its work. -/
def nextOf? : List Element → Option Text
  | [.empty _ success, .empty _ _] => success.lookup "to".toList
  | _ => none

namespace Node

def ofCommand? (name : Text) : List Element → List Element → Option Node
  | _ :: .text _ _ command :: files, after => do
    return .action name command (← files.mapM content?) (← nextOf? after)
  | _, _ => none

def ofSwitch? (name : Text) : Element → List Element → Option Node
  | .text _ success condition, [.empty _ failure] => do
    return .decision name (← conditionPath? condition) (← success.lookup "to".toList) (← failure.lookup "to".toList)
  | _, _ => none

def ofOperation? (name : Text) : Element → List Element → Option Node
  | .empty operation work, after => do
    let path ← work.lookup "path".toList
    let next ← nextOf? after
    if operation = "touchz".toList then return .touch name path next
    else if operation = "delete".toList then return .remove name path next
    else none
  | _, _ => none

/-- The node that an element describes: its kind shows in the work that is in it. -/
def ofElement? : Element → Option Node
  | .nested _ attributes (.nested work _ first others) after => do
    let name ← attributes.lookup "name".toList
    if work = "sqoop".toList then ofCommand? name others after
    else if work = "switch".toList then ofSwitch? name first others
    else if work = "fs".toList then ofOperation? name first after
    else none
  | _ => none

end Node

/-- The workflow that an element describes: its start comes first, and the two fixed nodes come last. -/
def Workflow.ofElement? : Element → Option Workflow
  | .nested _ attributes (.empty _ start) others =>
    match others.reverse with
    | .empty _ _ :: .nested _ _ (.text _ _ killMessage) [] :: nodes => do
      return ⟨← attributes.lookup "name".toList, ← start.lookup "to".toList, killMessage,
        ← nodes.reverse.mapM Node.ofElement?⟩
    | _ => none
  | _ => none

def Workflow.read (document : Text) : Option Workflow := (Element.read document).bind Workflow.ofElement?

theorem conditionPath?_eq_some {condition path : Text} :
    conditionPath? condition = some path ↔ condition = existsCondition path := by
  have hcondition : existsCondition path = conditionFront ++ path ++ conditionBack := rfl
  rw [hcondition]
  unfold conditionPath?
  -- what the two ends are does not matter, only that they are fixed
  generalize conditionFront = front
  generalize conditionBack = back
  constructor
  · intro h
    dsimp only at h
    split at h
    · rename_i hsame
      cases h
      exact hsame.symm
    · cases h
  · rintro rfl
    have hlength : (front ++ path ++ back).length - (front.length + back.length) = path.length := by
      simp only [List.length_append]
      omega
    have hpath : ((front ++ path ++ back).drop front.length).take path.length = path := by
      rw [List.append_assoc, List.drop_left, List.take_left]
    dsimp only
    rw [hlength, hpath, if_pos rfl]

theorem Node.ofElement?_element (node : Node) : Node.ofElement? node.element = some node := by
  cases node with
  | action name command files next =>
    have hfiles : (files.map (Element.text "file".toList [])).mapM content? = some files :=
      mapM_map_eq_some fun _ _ => rfl
    have hcommand : ofCommand? name (.text "name-node".toList [] "$\x7bnameNode\x7d".toList ::
        .text "command".toList [] command :: files.map (.text "file".toList [])) (transitionElements next) =
          some (.action name command files next) := by
      rw [ofCommand?, hfiles]
      rfl
    exact hcommand
  | decision name path thenTo elseTo =>
    have hpath : conditionPath? (existsCondition path) = some path := conditionPath?_eq_some.2 rfl
    have hswitch : ofSwitch? name (.text "case".toList [attr "to" thenTo] (existsCondition path))
        [.empty "default".toList [attr "to" elseTo]] = some (.decision name path thenTo elseTo) := by
      rw [ofSwitch?, hpath]
      rfl
    exact hswitch
  | touch name path next => rfl
  | remove name path next => rfl

theorem Workflow.ofElement?_element (workflow : Workflow) : Workflow.ofElement? workflow.element = some workflow := by
  have hnodes : (workflow.nodes.map Node.element).mapM Node.ofElement? = some workflow.nodes :=
    mapM_map_eq_some fun node _ => node.ofElement?_element
  have hothers : (workflow.nodes.map Node.element ++ fixedElements workflow.killMessage).reverse =
      (fixedElements workflow.killMessage).reverse ++ (workflow.nodes.map Node.element).reverse := List.reverse_append
  rw [Workflow.element, Workflow.ofElement?, hothers]
  show (do return ⟨workflow.name, workflow.start, workflow.killMessage,
    ← (workflow.nodes.map Node.element).reverse.reverse.mapM Node.ofElement?⟩) = some workflow
  rw [List.reverse_reverse, hnodes]
  rfl

/-! ## Names and values -/

theorem Node.wellNamed (node : Node) : WellNamed node.steps := by
  cases node with
  | action name command files next =>
    have hblank : WellNamed (action [] [] [] []).steps := by decide
    have hfile : WellNamed (textElement "file" [] []) := by decide
    have hparts : ∀ step ∈ (action name command files next).steps,
        step ∈ (action name command [] next).steps ∨ step ∈ files.flatMap (textElement "file" []) := by
      simp only [Node.steps, Markup.element, List.mem_append, List.mem_cons, List.flatMap_nil]
      tauto
    exact .of_parts hparts hblank (wellNamed_flatMap fun _ _ => hfile)
  | decision name path thenTo elseTo =>
    have hblank : WellNamed (decision [] [] [] []).steps := by decide
    exact hblank
  | touch name path next =>
    have hblank : WellNamed (touch [] [] []).steps := by decide
    exact hblank
  | remove name path next =>
    have hblank : WellNamed (remove [] [] []).steps := by decide
    exact hblank

theorem Workflow.wellNamed (workflow : Workflow) : WellNamed workflow.steps := by
  have hblank : WellNamed (Workflow.steps ⟨[], [], [], []⟩) := by decide
  have hparts : ∀ step ∈ workflow.steps, step ∈ Workflow.steps { workflow with nodes := [] } ∨
      step ∈ workflow.nodes.flatMap Node.steps := by
    simp only [Workflow.steps, Markup.element, List.mem_append, List.mem_cons, List.flatMap_nil]
    tauto
  exact .of_parts hparts hblank (wellNamed_flatMap fun node _ => node.wellNamed)

theorem Workflow.plain_element (workflow : Workflow) : workflow.element.Plain := by
  rw [Element.Plain, workflow.steps_element]
  exact workflow.wellNamed.plain

/-- A node of the same kind, with as many files, in which all texts are empty. -/
def Node.blank : Node → Node
  | action _ _ files _ => action [] [] (files.map fun _ => []) []
  | decision _ _ _ _ => decision [] [] [] []
  | touch _ _ _ => touch [] [] []
  | remove _ _ _ => remove [] [] []

def Workflow.blank (workflow : Workflow) : Workflow := ⟨[], [], [], workflow.nodes.map Node.blank⟩

theorem Node.outline_element (node : Node) : node.element.outline = node.blank.element.outline := by
  cases node with
  | action name command files next =>
    have hfiles : outlinesOf (files.map (Element.text "file".toList [])) =
        outlinesOf ((files.map fun _ => []).map (Element.text "file".toList [])) := by
      rw [outlinesOf_eq_map, outlinesOf_eq_map, List.map_map, List.map_map, List.map_map]
      rfl
    simp only [Node.element, Node.blank, Element.outline, outlinesOf, hfiles]
    rfl
  | decision name path thenTo elseTo => rfl
  | touch name path next => rfl
  | remove name path next => rfl

theorem Workflow.outline_element (workflow : Workflow) : workflow.element.outline = workflow.blank.element.outline := by
  have hnodes : (workflow.nodes.map Node.element).map Element.outline =
      (workflow.blank.nodes.map Node.element).map Element.outline := by
    rw [Workflow.blank, List.map_map, List.map_map, List.map_map]
    exact List.map_congr_left fun node _ => node.outline_element
  simp only [Workflow.element, Element.outline, outlinesOf_eq_map, List.map_append, hnodes]
  rfl

/-! ## Documents -/

theorem Workflow.document_element (workflow : Workflow) : workflow.document = Markup.document workflow.element.steps := by
  rw [workflow.steps_element]
  rfl

/-- The tree in the document is that of the workflow. -/
theorem Workflow.read_tree (workflow : Workflow) : Element.read workflow.document = some workflow.element := by
  rw [workflow.document_element, Element.read_steps workflow.plain_element]

theorem Workflow.read_written (workflow : Workflow) : Workflow.read workflow.document = some workflow := by
  rw [Workflow.read, workflow.read_tree, Option.bind_some, Workflow.ofElement?_element]

/-- **A workflow is read back whole from its document.**  The elements in the document are those of the workflow, and
which they are does not depend on a text in it. -/
theorem Workflow.read_document (workflow : Workflow) :
    Workflow.read workflow.document = some workflow ∧ Element.read workflow.document = some workflow.element ∧
      (Element.read workflow.document).map Element.outline =
        (Element.read workflow.blank.document).map Element.outline := by
  have hread : ∀ w : Workflow, Element.read w.document = some w.element := fun w => by
    rw [w.document_element, Element.read_steps w.plain_element]
  refine ⟨?_, hread workflow, ?_⟩
  · rw [Workflow.read, hread, Option.bind_some, Workflow.ofElement?_element]
  · rw [hread, hread, Option.map_some, Option.map_some, Workflow.outline_element]

end ImportDispatch

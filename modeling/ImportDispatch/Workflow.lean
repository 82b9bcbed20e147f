import ImportDispatch.Workflow.Node
import ImportDispatch.Workflow.Order
/-!
# Workflows

A draft collects nodes; building it gives a workflow only if the nodes form a sound graph: the names are distinct and
none is taken by the two fixed nodes, every transition leads somewhere, there is no cycle, and the start is the one
node that nothing leads to.
-/
namespace ImportDispatch

/-! ## Errors -/

/-- Why a schedule cannot be written for the engine. -/
inductive ScheduleFault
  | unknownUnit (unit : Text)
  | unplaceable (timezone : Text)
deriving DecidableEq, Repr

def ScheduleFault.message : ScheduleFault → Text
  | unknownUnit unit => "unknown unit '".toList ++ unit ++ ['\'']
  | unplaceable timezone => "cannot place schedule in timezone '".toList ++ timezone ++ ['\'']

/-- Why a definition for the engine cannot be built. -/
inductive DefinitionError
  | missingField (field : Text)
  | duplicateNode (name : Text)
  | reservedName (name : Text)
  | danglingTransition (source target : Text)
  | unknownStart (name : Text)
  | orphan (name : Text)
  | startHasPredecessor (name : Text)
  | cycle (name : Text)
  | invalidSchedule (fault : ScheduleFault)
  | beyondCalendar
deriving DecidableEq, Repr

def DefinitionError.message : DefinitionError → Text
  | missingField field => "missing required field '".toList ++ field ++ ['\'']
  | duplicateNode name => "duplicate node name '".toList ++ name ++ ['\'']
  | reservedName name => "node name '".toList ++ name ++ "' is reserved".toList
  | danglingTransition source target =>
    "node '".toList ++ source ++ "' transitions to undefined node '".toList ++ target ++ ['\'']
  | unknownStart name => "start node '".toList ++ name ++ "' is not defined".toList
  | orphan name => "node '".toList ++ name ++ "' has no predecessor".toList
  | startHasPredecessor name => "start node '".toList ++ name ++ "' must not have predecessors".toList
  | cycle name => "workflow graph contains a cycle through '".toList ++ name ++ ['\'']
  | invalidSchedule fault => "invalid coordinator schedule: ".toList ++ fault.message
  | beyondCalendar => "local time lies in the last hour of the calendar".toList

/-! ## Workflows -/

/-- What a run that was killed reports. -/
def standardKillMessage : Text := "Error message[$\x7bwf:errorMessage(wf:lastErrorNode())\x7d]".toList

/-- A workflow with a sound graph. -/
structure Workflow where
  name : Text
  start : Text
  killMessage : Text
  nodes : List Node
deriving DecidableEq, Repr

namespace Workflow

def node? (workflow : Workflow) (name : Text) : Option Node := workflow.nodes.find? (·.name == name)

open Markup

def nameSpace : Text := "uri:oozie:workflow:0.4".toList

def steps (workflow : Workflow) : List Step :=
  element "workflow-app" [attr "name" workflow.name, attr "xmlns" nameSpace]
    (emptyElement "start" [attr "to" workflow.start] ++ workflow.nodes.flatMap Node.steps ++
      element "kill" [attr "name" failName] (textElement "message" [] workflow.killMessage) ++
      emptyElement "end" [attr "name" endName])

def document (workflow : Workflow) : Text := Markup.document workflow.steps

end Workflow

/-! ## Checks on a list of nodes -/

namespace NodeList

/-- The first node whose name is taken, by a fixed node or by a node before it.  `names` are those before it. -/
def nameError? (names : List Text) : List Node → Option DefinitionError
  | [] => none
  | node :: rest =>
    if isFixedName node.name then some (.reservedName node.name)
    else if node.name ∈ names then some (.duplicateNode node.name)
    else nameError? (names ++ [node.name]) rest

/-- The first transition that leads nowhere. -/
def danglingError? (nodes : List Node) : Option DefinitionError :=
  nodes.findSome? fun node =>
    (node.successors.find? fun target => !isFixedName target && !(nodes.map Node.name).elem target).map
      (.danglingTransition node.name)

/-- The transitions between listed nodes, by place in the list, in the order of the nodes and of their successors, each
pair once. -/
def edges (nodes : List Node) : List (Nat × Nat) :=
  let names := nodes.map Node.name
  let all := nodes.flatMap fun node =>
    (node.successors.filter fun target => names.elem target).map fun target =>
      (names.idxOf node.name, names.idxOf target)
  all.foldl (fun kept edge => if edge ∈ kept then kept else kept ++ [edge]) []

/-- The places a node leads to, the latest transition first. -/
def nextPlaces (edges : List (Nat × Nat)) (x : Nat) : List Nat :=
  ((edges.filter fun edge => edge.1 == x).map Prod.snd).reverse

/-- The places that lead to a node, the latest transition first. -/
def previousPlaces (edges : List (Nat × Nat)) (x : Nat) : List Nat :=
  ((edges.filter fun edge => edge.2 == x).map Prod.fst).reverse

/-- A cycle, if there is one. -/
def cycleError? (nodes : List Node) : Option DefinitionError :=
  let edges := edges nodes
  match Order.cycleNode? nodes.length (nextPlaces edges) (previousPlaces edges) with
  | some x => some (.cycle ((nodes.map Node.name)[x]?.getD []))
  | none => none

/-- Whether some listed node leads to the name. -/
def isEntered (nodes : List Node) (name : Text) : Bool := nodes.any fun node => node.successors.elem name

/-- The first node that is entered though it is the start, or is not entered though it is not. -/
def entryError? (start : Text) (nodes : List Node) : Option DefinitionError :=
  nodes.findSome? fun node =>
    match node.name == start, isEntered nodes node.name with
    | true, true => some (.startHasPredecessor start)
    | false, false => some (.orphan node.name)
    | _, _ => none

/-- The first thing that is wrong with a list of nodes and a start. -/
def error? (start : Text) (nodes : List Node) : Option DefinitionError :=
  (nameError? [] nodes).or <|
    (if (nodes.map Node.name).elem start then none else some (.unknownStart start)).or <|
      (danglingError? nodes).or <| (cycleError? nodes).or <| entryError? start nodes

end NodeList

/-! ## Drafts -/

/-- A workflow that is being put together. -/
structure WorkflowDraft where
  name? : Option Text := none
  start? : Option Text := none
  killMessage? : Option Text := none
  nodes : List Node := []
deriving DecidableEq, Repr

/-- The workflow of a draft, or the first thing that is wrong with it. -/
def WorkflowDraft.build (draft : WorkflowDraft) : Except DefinitionError Workflow :=
  match draft.name?, draft.start? with
  | none, _ => .error (.missingField "name".toList)
  | some _, none => .error (.missingField "start".toList)
  | some name, some start =>
    match NodeList.error? start draft.nodes with
    | some e => .error e
    | none => .ok ⟨name, start, draft.killMessage?.getD standardKillMessage, draft.nodes⟩

end ImportDispatch

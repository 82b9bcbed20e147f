import ImportDispatch.Markup
/-!
# Workflow nodes

The steps of a workflow: run a command, branch on whether a path exists, create a flag file, delete a path.  A node
names the nodes it leads to; two further nodes are always there, one for the end and one for failure.
-/
namespace ImportDispatch

/-- The node where a run ends well. -/
def endName : Text := "end".toList

/-- The node that every failure leads to. -/
def failName : Text := "fail".toList

/-- The two nodes that are always there. -/
def isFixedName (name : Text) : Bool := name == endName || name == failName

/-- A step of a workflow. -/
inductive Node
  /-- Runs a command, with the files it needs beside it. -/
  | action (name command : Text) (files : List Text) (next : Text)
  /-- Branches on whether a path exists. -/
  | decision (name path thenTo elseTo : Text)
  /-- Creates an empty file. -/
  | touch (name path next : Text)
  /-- Removes a path and all below it. -/
  | remove (name path next : Text)
deriving DecidableEq, Repr

namespace Node

def name : Node → Text
  | action name _ _ _ => name
  | decision name _ _ _ => name
  | touch name _ _ => name
  | remove name _ _ => name

/-- The nodes it leads to when nothing fails. -/
def successors : Node → List Text
  | action _ _ _ next => [next]
  | decision _ _ thenTo elseTo => [thenTo, elseTo]
  | touch _ _ next => [next]
  | remove _ _ next => [next]

/-- The node it leads to on failure; a decision cannot fail. -/
def onFailure? : Node → Option Text
  | decision _ _ _ _ => none
  | _ => some failName

end Node

/-! ## As markup -/

open Markup

/-- The condition that a path exists, in the expression language of the engine. -/
def existsCondition (path : Text) : Text :=
  "$\x7bfs:exists(\"".toList ++ path ++ "\") eq true\x7d".toList

def commandNamespace : Text := "uri:oozie:sqoop-action:0.3".toList

/-- Where an action leads, when it goes well and when it fails. -/
def transitionSteps (next : Text) : List Step :=
  emptyElement "ok" [attr "to" next] ++ emptyElement "error" [attr "to" failName]

/-- An action on the file system. -/
def fileSteps (name : Text) (operation : String) (path next : Text) : List Step :=
  element "action" [attr "name" name]
    (element "fs" [] (emptyElement operation [attr "path" path]) ++ transitionSteps next)

def Node.steps : Node → List Step
  | action name command files next =>
    element "action" [attr "name" name]
      (element "sqoop" [attr "xmlns" commandNamespace]
        (textElement "job-tracker" [] "$\x7bjobTracker\x7d".toList ++
          textElement "name-node" [] "$\x7bnameNode\x7d".toList ++ textElement "command" [] command ++
          files.flatMap (textElement "file" [])) ++
        transitionSteps next)
  | decision name path thenTo elseTo =>
    element "decision" [attr "name" name]
      (element "switch" []
        (textElement "case" [attr "to" thenTo] (existsCondition path) ++
          emptyElement "default" [attr "to" elseTo]))
  | touch name path next => fileSteps name "touchz" path next
  | remove name path next => fileSteps name "delete" path next

end ImportDispatch

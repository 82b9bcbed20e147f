import ImportDispatch.CommandLine
import ImportDispatch.Workflow
/-!
# The two shapes of a workflow

An import that runs once is a single action.  A recurring import saves its job on the first run and marks that with a
flag file; every run then executes the saved job:

    start → decision (is the flag there?)
      yes: [cleanup →] exec → end
      no:  create → flag → exec → end

The cleanup is there for imports that replace the one before: it deletes the target directory.
-/
namespace ImportDispatch

/-- The file that marks a saved job. -/
def flagName : Text := "sqoop-create".toList

/-- What the engine replaces by the target directory of the job. -/
def targetDirVariable : Text := "$\x7btargetDir\x7d".toList

/-- An action of a job, with the connection parameters beside it. -/
def jobAction (name : Text) (command : CommandLine) (next : Text) : Node :=
  .action name command.text [connectionParamsFile] next

def appName (name : Text) : Text := name ++ "-app".toList

def nodeName (name : Text) (role : String) : Text := name ++ '-' :: role.toList

/-- The workflow of an import that runs once. -/
def oneShotDraft (name : Text) (command : CommandLine) : WorkflowDraft where
  name? := some (appName name)
  start? := some (nodeName name "import")
  nodes := [jobAction (nodeName name "import") command endName]

/-- The workflow of a recurring import: the commands that save the job and run it, guarded by a flag file. -/
def recurringDraft (name flagPath : Text) (overwrite : Bool) (save run : CommandLine) : WorkflowDraft where
  name? := some (appName name)
  start? := some (nodeName name "decision")
  nodes :=
    [.decision (nodeName name "decision") flagPath (nodeName name (if overwrite then "cleanup" else "exec"))
        (nodeName name "create"),
      jobAction (nodeName name "create") save (nodeName name "flag"),
      .touch (nodeName name "flag") flagPath (nodeName name "exec")] ++
    (if overwrite then [.remove (nodeName name "cleanup") targetDirVariable (nodeName name "exec")] else []) ++
    [jobAction (nodeName name "exec") run endName]

end ImportDispatch

import ImportDispatch.Attempt
import ImportDispatch.Text
/-!
# Storage

Where the artifacts of jobs are kept for the engine.  The pipelines see it through what a workspace can do; what is
behind it is a state of any type, and every operation may fail and may change the state.  This module also holds the
few facts about paths that all storages share.
-/
namespace ImportDispatch

/-! ## Paths -/

/-- A path below another one.  A path that starts at the root stands for itself. -/
def joinPath (base part : Text) : Text :=
  if part.head? = some '/' then part
  else if base.isEmpty || base.getLast? == some '/' then base ++ part
  else base ++ '/' :: part

/-- The directory of a file. -/
def directoryOf (path : Text) : Text :=
  match Text.beforeLast '/' path with
  | none => []
  | some [] => ['/']
  | some dir => dir

def workflowFileName : Text := "workflow.xml".toList

def coordinatorFileName : Text := "coordinator.xml".toList

/-- The directory of all jobs in the directory of an organization. -/
def jobsFolder : Text := "oozie-jobs".toList

/-- The directory of all imports that choose no target, in the directory of an organization. -/
def importsFolder : Text := "sqoop-imports".toList

/-! ## Failures -/

/-- What a storage fails with. -/
inductive StorageFailure
  | checkFailed (path : Text)
  | createFailed (path : Text)
  | directoryFailed (path : Text)
  | organizationFailed (path : Text)
  | alreadyExists (path : Text)
  | quotaExceeded
  | unreachable
  | noWorkspace (org : Text)
deriving DecidableEq, Repr

/-- A path between quotes. -/
def inQuotes (path : Text) : Text := '\'' :: path ++ ['\'']

def StorageFailure.message : StorageFailure → Text
  | checkFailed path => "Failed to check ".toList ++ inQuotes path
  | createFailed path => "Failed to create file ".toList ++ inQuotes path
  | directoryFailed path => "Failed to create directory ".toList ++ inQuotes path
  | organizationFailed path => "Failed to create organization directory ".toList ++ inQuotes path
  | alreadyExists path => path ++ " already exists".toList
  | quotaExceeded => "disk quota exceeded".toList
  | unreachable => "namenode unreachable".toList
  | noWorkspace org => "no workspace for ".toList ++ org

/-! ## Workspaces -/

/-- What can be done in the workspace of one organization, over a state of its storage. -/
structure Workspace (σ : Type) where
  /-- The directory of the organization. -/
  home : Text
  /-- The directory of the workflow of a job. -/
  workflowDir : (jobId appDir : Text) → Text
  /-- The directory that a job imports into; a directory that the client chose comes before the one of the job. -/
  targetDir : (jobId dir : Text) → Text
  /-- Whether something has the path. -/
  isTaken : (path : Text) → Attempt StorageFailure σ Bool
  /-- Creates a file, unless something has its path. -/
  addFile : (path content : Text) → Attempt StorageFailure σ Unit
  /-- Writes a definition into a directory, which is made if need be, and gives its path. -/
  addDefinition : (dir file content : Text) → Attempt StorageFailure σ Text

/-- Hands out the workspace of an organization. -/
structure Storage (σ : Type) where
  workspace : (org : Text) → Attempt StorageFailure σ (Workspace σ)

def Workspace.writeWorkflow {σ : Type} (w : Workspace σ) (dir document : Text) : Attempt StorageFailure σ Text :=
  w.addDefinition dir workflowFileName document

def Workspace.writeCoordinator {σ : Type} (w : Workspace σ) (dir document : Text) : Attempt StorageFailure σ Text :=
  w.addDefinition dir coordinatorFileName document

end ImportDispatch

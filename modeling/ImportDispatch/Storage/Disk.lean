import ImportDispatch.Storage.FileTree
/-!
# The storage on disk

A directory tree with one directory for each organization below `org`.  A job has its directory there, with the
workflow in it or further below, and so has its import unless the client chose a place for it.  The directory of an
organization is made when its workspace is first asked for.
-/
namespace ImportDispatch

/-! ## Layout -/

namespace DiskLayout

/-- Without the slashes at both ends. -/
def trimSlashes (path : Text) : Text := Text.trimBoth (· == '/') path

/-- The directory of a workflow. -/
def workflowDir (home jobId appDir : Text) : Text :=
  let dir := joinPath (joinPath home jobsFolder) jobId
  let below := trimSlashes appDir
  if below.isEmpty then dir else joinPath dir below

def targetDir (home jobId dir : Text) : Text :=
  let chosen := trimSlashes dir
  if chosen.isEmpty then joinPath (joinPath home importsFolder) jobId else joinPath home chosen

def home (root org : Text) : Text := joinPath (joinPath root "org".toList) org

end DiskLayout

/-! ## The storage -/

/-- The tree, and the organizations whose workspace was asked for. -/
structure DiskState where
  tree : FileTree
  opened : List Text := []
deriving DecidableEq, Repr

namespace DiskStorage

/-- Whether something has the path. -/
def isTaken (path : Text) : Attempt StorageFailure DiskState Bool := do
  let state ← get
  match state.tree.isTaken path with
  | .ok taken => return taken
  | .error _ => throw (.checkFailed path)

/-- Creates a file in a directory that is there. -/
def addFile (path content : Text) : Attempt StorageFailure DiskState Unit := do
  let state ← get
  match state.tree.makeFile path content with
  | .ok tree => set { state with tree }
  | .error _ => throw (.createFailed path)

/-- Makes a directory and all it lies in; a failure is reported as `failure`. -/
def makeDirectories (path : Text) (failure : StorageFailure) : Attempt StorageFailure DiskState Unit := do
  let state ← get
  let (result, tree) := FileTree.makeDirectories path state.tree
  set { state with tree }
  match result with
  | .ok () => return ()
  | .error _ => throw failure

/-- Writes a definition into a directory, which is made if need be. -/
def addDefinition (dir file content : Text) : Attempt StorageFailure DiskState Text := do
  makeDirectories dir (.directoryFailed dir)
  let path := joinPath dir file
  addFile path content
  return path

def workspaceAt (home : Text) : Workspace DiskState where
  home := home
  workflowDir := DiskLayout.workflowDir home
  targetDir := DiskLayout.targetDir home
  isTaken := isTaken
  addFile := addFile
  addDefinition := addDefinition

/-- The workspace of an organization, whose directory is made the first time. -/
def workspace (root org : Text) : Attempt StorageFailure DiskState (Workspace DiskState) := do
  let home := DiskLayout.home root org
  if (← get).opened.elem org then return workspaceAt home
  makeDirectories home (.organizationFailed home)
  modify fun state => { state with opened := org :: state.opened }
  return workspaceAt home

end DiskStorage

def diskStorage (root : Text) : Storage DiskState := ⟨DiskStorage.workspace root⟩

end ImportDispatch

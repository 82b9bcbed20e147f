import ImportDispatch.Storage
/-!
# The shelf

A storage that keeps all files of all organizations under their paths and knows no directories of its own: a path is
taken by a file, or by being the directory of one.  It can be told to fail, to rehearse what happens then.
-/
namespace ImportDispatch

/-- What a shelf is told to do wrong. -/
structure ShelfPlan where
  /-- How many files may still be written, if that is limited. -/
  writesLeft : Option Nat := none
  /-- No question about a path is answered. -/
  checksFail : Bool := false
  /-- How many questions about a path are still answered with yes, whatever is there. -/
  takenLeft : Nat := 0
  /-- The organizations that have no workspace. -/
  closed : List Text := []
deriving DecidableEq, Repr

/-- The files, the oldest first, and the plan. -/
structure Shelf where
  files : List (Text × Text) := []
  plan : ShelfPlan := {}
deriving DecidableEq, Repr

namespace Shelf

/-- Whether the path is a file or the directory of one. -/
def holds (shelf : Shelf) (path : Text) : Bool :=
  shelf.files.any fun file => file.1 == path || (path ++ ['/']).isPrefixOf file.1

/-- Whether something has the path. -/
def isTaken (path : Text) : Attempt StorageFailure Shelf Bool := do
  let shelf ← get
  if shelf.plan.checksFail then throw .unreachable
  else if shelf.plan.takenLeft = 0 then return shelf.holds path
  else
    set { shelf with plan := { shelf.plan with takenLeft := shelf.plan.takenLeft - 1 } }
    return true

/-- Writes a file, unless something has its path.  A write that fails for that reason counts as one. -/
def addFile (path content : Text) : Attempt StorageFailure Shelf Unit := do
  let shelf ← get
  if shelf.plan.writesLeft = some 0 then throw .quotaExceeded
  else
    let shelf := { shelf with plan := { shelf.plan with writesLeft := shelf.plan.writesLeft.map (· - 1) } }
    set shelf
    if shelf.files.any (·.1 == path) then throw (.alreadyExists path)
    else set { shelf with files := shelf.files ++ [(path, content)] }

def addDefinition (dir file content : Text) : Attempt StorageFailure Shelf Text := do
  let path := dir ++ '/' :: file
  addFile path content
  return path

def home (org : Text) : Text := "/org/".toList ++ org

def workspaceOf (org : Text) : Workspace Shelf where
  home := home org
  workflowDir jobId appDir :=
    home org ++ '/' :: jobsFolder ++ '/' :: jobId ++ (if appDir.isEmpty then [] else '/' :: appDir)
  targetDir jobId dir := home org ++ '/' :: (if dir.isEmpty then importsFolder ++ '/' :: jobId else dir)
  isTaken := isTaken
  addFile := addFile
  addDefinition := addDefinition

/-- The workspace of an organization, unless it has none. -/
def workspace (org : Text) : Attempt StorageFailure Shelf (Workspace Shelf) := do
  if (← get).plan.closed.elem org then throw (.noWorkspace org) else return workspaceOf org

end Shelf

def shelfStorage : Storage Shelf := ⟨Shelf.workspace⟩

end ImportDispatch

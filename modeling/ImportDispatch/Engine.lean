import ImportDispatch.Engine.Failure
import ImportDispatch.Storage
/-!
# The workflow engine

The engine starts what lies in a directory of the storage and answers with an id of its own.  Like a storage, it is
seen through what it can do, over a state of any type.
-/
namespace ImportDispatch

/-- What is submitted: a workflow that runs once, or a coordinator. -/
inductive JobKind
  | workflow | coordinator
deriving DecidableEq, Repr

/-- A submission: what, where it lies, and where its import goes. -/
structure Submission where
  kind : JobKind
  appDir : Text
  targetDir : Text
deriving DecidableEq, Repr

/-- What the service does with the engine. -/
structure Engine (σ : Type) where
  /-- Starts a job and gives the id of the engine. -/
  submit : Submission → Attempt EngineFailure σ Text

end ImportDispatch

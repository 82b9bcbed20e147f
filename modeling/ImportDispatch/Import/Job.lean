import ImportDispatch.Import.Spec
import ImportDispatch.Schedule
/-!
# Import jobs

A request names its job, says where the job keeps its workflow, and what is imported; a recurring one also says when.
-/
namespace ImportDispatch

/-- A request to import once. -/
structure ImportJob where
  name : Text
  /-- The directory of the workflow below the directory of the job. -/
  appDir : Text := []
  spec : ImportSpec
deriving DecidableEq, Repr

/-- A request to import again and again. -/
structure ScheduledJob where
  name : Text
  /-- The directory of the workflow below the directory of the job. -/
  appDir : Text := []
  spec : ImportSpec
  schedule : Schedule
deriving DecidableEq, Repr

end ImportDispatch

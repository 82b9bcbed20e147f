import ImportDispatch.Calendar.TimeText
import ImportDispatch.Import.Normal
import ImportDispatch.Storage
/-!
# Job ids

An id is the name of a job and the second it came in.  Two requests of one name in one second would get the same id, so
an id is given out only if its directory is free: nothing is there, and it was not given out before in the same second.
A taken id grows by a suffix until it is free.  The suffixes are drawn at random outside, and handed in as a list.
-/
namespace ImportDispatch

/-- The directories given out in the current second, and its stamp. -/
structure Reservations where
  stamp : Text := []
  dirs : List Text := []
deriving DecidableEq, Repr

/-- Why no id is given out. -/
inductive ReservationError
  | storage (failure : StorageFailure)
  /-- Every suffix that was drawn led to a taken directory. -/
  | suffixesUsedUp
deriving DecidableEq, Repr

/-- What is reserved in the second of a stamp: nothing if the second has changed. -/
def Reservations.inSecond (reserved : Reservations) (stamp : Text) : Reservations :=
  if reserved.stamp = stamp then reserved else { stamp }

namespace JobId

/-- The id of a name in a second, without suffixes. -/
def base (name stamp : Text) : Text := normalName name ++ '-' :: stamp

/-- The first id of a row, each grown from the one before by a suffix, whose directory is free. -/
def firstFree {σ : Type} (workspace : Workspace σ) (reservedDirs : List Text) :
    List Text → Text → Attempt ReservationError σ Text
  | suffixes, id => do
    let dir := workspace.workflowDir id []
    let taken ← if reservedDirs.elem dir then pure true else (workspace.isTaken dir).adapt .storage
    if !taken then return id
    else match suffixes with
      | [] => throw .suffixesUsedUp
      | suffix :: rest => firstFree workspace reservedDirs rest (id ++ '-' :: suffix)

/-- Gives out an id for a name in the second of the clock.  What is reserved changes only with the second and with an id
that is given out. -/
def reserve {σ : Type} (workspace : Workspace σ) (now : LocalTime) (suffixes : List Text) (name : Text) :
    Attempt ReservationError (Reservations × σ) Text := do
  let stamp := now.stampText
  modify fun (reserved, state) => (reserved.inSecond stamp, state)
  let (reserved, _) ← get
  let id ← (firstFree workspace reserved.dirs suffixes (base name stamp)).within Prod.snd
    (fun state whole => (whole.1, state)) (fun e => e)
  modify fun (reserved, state) => ({ reserved with dirs := workspace.workflowDir id [] :: reserved.dirs }, state)
  return id

end JobId
end ImportDispatch

import ImportDispatch.Engine
/-!
# The ledger engine

An engine that starts nothing: it writes every submission down and numbers them.  It can be told to fail after some.
-/
namespace ImportDispatch

/-- The submissions, the oldest first, and how many more are taken, if that is limited. -/
structure Ledger where
  submissions : List Submission := []
  left : Option Nat := none
deriving DecidableEq, Repr

namespace Ledger

/-- The id of a submission by its number. -/
def idOf (number : Nat) : Text := Decimal.padded 7 number ++ "-oozie".toList

def submit (submission : Submission) : Attempt EngineFailure Ledger Text := do
  let ledger ← get
  if ledger.left = some 0 then throw .closed
  else
    let submissions := ledger.submissions ++ [submission]
    set { ledger with submissions, left := ledger.left.map (· - 1) }
    return idOf submissions.length

end Ledger

def ledgerEngine : Engine Ledger := ⟨Ledger.submit⟩

end ImportDispatch

/-!
# Attempts

A step on a state that may fail.  What was done before a failure stays done: the state goes on even where the result
does not.  A step on a part of a larger state becomes a step on the whole by saying where the part is.
-/
namespace ImportDispatch

/-- A step on a state that may fail; what was done before a failure stays done. -/
abbrev Attempt (ε σ α : Type) := ExceptT ε (StateM σ) α

namespace Attempt

variable {ε δ σ τ α : Type}

/-- The result of a step and the state behind it. -/
def runOn (step : Attempt ε σ α) (state : σ) : Except ε α × σ := StateT.run (ExceptT.run step) state

/-- A step on a part of the state: `look` finds the part, `put` puts it back, and a failure is told by `wrap`. -/
def within (look : σ → τ) (put : τ → σ → σ) (wrap : ε → δ) (step : Attempt ε τ α) : Attempt δ σ α :=
  ExceptT.mk fun state =>
    let (result, part) := step.runOn (look state)
    (result.mapError wrap, put part state)

/-- A result that was found without looking at the state. -/
def ofExcept (wrap : ε → δ) (result : Except ε α) : Attempt δ σ α :=
  ExceptT.mk fun state => (result.mapError wrap, state)

end Attempt
end ImportDispatch

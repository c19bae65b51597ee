import HartDebug.Action
import HartDebug.Error

/-!
# Reports

How a failure is put to the user: what was being done, from the outside in, then the error, then what
caused it.
-/

namespace HartDebug

/-- An error, with what was being done when it arose, from the outside in. -/
structure Report where
  doing : List String := []
  error : DebugError
  deriving DecidableEq, Repr

namespace Report

/-- Everything that a report says, from the outside in. -/
def chain (r : Report) : List String :=
  r.doing ++ [r.error.message] ++ (r.error.source?.map (·.message)).toList

/-- Report the failure of an action. -/
def of {σ α : Type} (x : Action DebugError σ α) : Action Report σ α :=
  x.mapError fun e => ⟨[], e⟩

/-- Report the failure of an action, saying what it was for. -/
def during {σ α : Type} (what : String) (x : Action DebugError σ α) : Action Report σ α :=
  x.mapError fun e => ⟨[what], e⟩

end Report

end HartDebug

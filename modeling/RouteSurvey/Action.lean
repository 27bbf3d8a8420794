import RouteSurvey.Error
import RouteSurvey.Notice

/-! # Actions

Steps of a run. An action may end the run with an error, and it tells what it does; what
has been told stays told when the run ends.
-/

namespace RouteSurvey

/-- A step of a run in a monad of calls. -/
abbrev Action (m : Type → Type) : Type → Type :=
  ExceptT Error (StateT (List Notice) m)

namespace Action

variable {m : Type → Type} [Monad m] {α : Type}

/-- Tells some things. -/
def tell (notices : List Notice) : Action m Unit :=
  modify (· ++ notices)

/-- Makes a call that cannot fail. -/
def call (answer : m α) : Action m α :=
  liftM answer

/-- Makes a call, and ends with an error if it has no answer. -/
def demand (error : Error) (answer? : m (Option α)) : Action m α := do
  match ← call answer? with
  | some answer => return answer
  | none => throw error

/-- Makes a call, and ends with an error if it does not hold or fails. -/
def ensure (error : Error) (holds : m Bool) : Action m Unit := do
  if !(← call holds) then throw error

/-- Runs an action; what it tells comes with its result. -/
def outcome (action : Action m α) : m (Except Error α × List Notice) :=
  action.run.run []

end Action

end RouteSurvey

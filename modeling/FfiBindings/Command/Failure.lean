import FfiBindings.Project

/-!
# How commands fail
-/

namespace FfiBindings.Command

/-- Why a command fails. -/
inductive Cause where
  | project (error : ProjectError)
  | invalidServiceName (name : Text)
  /-- The working directory does not exist any more. -/
  | noWorkingDirectory (fault : Fault)
  deriving Repr, DecidableEq

/-- A failed command: the cause, and which step it happened in where there are several. -/
structure Failure where
  step : Option Text
  cause : Cause
  deriving Repr, DecidableEq

/-- The cause in words, followed by what caused it in turn. -/
def Cause.messages : Cause → List Text
  | .project error => error.message :: error.causes
  | .invalidServiceName name => ["Invalid service name '" ++ name ++ "'"]
  | .noWorkingDirectory fault => [fault.message]

/-- The whole chain from the failed step to the first cause. -/
def Failure.message (failure : Failure) : Text :=
  Text.join ": " (failure.step.toList ++ failure.cause.messages)

/-- What a command does. -/
abbrev Run (α : Type) := Action Failure α

/-- Do something whose failure is a project's. -/
def ofProject {α : Type} (action : Action ProjectError α) : Run α :=
  action.orElseThrow fun error => ⟨none, .project error⟩

/-- Do something as a named step. -/
def asStep {α : Type} (step : Text) (action : Action ProjectError α) : Run α :=
  action.orElseThrow fun error => ⟨some step, .project error⟩

/-- The path of the working directory. -/
def workingDirectory : Run Path :=
  Host.directoryPath.orElseThrow fun fault => ⟨none, .noWorkingDirectory fault⟩

/-- A bold word in front of what it introduces. -/
def headed (host : Host) (heading rest : Text) : Text :=
  Log.paint host.isColored Log.bold heading ++ " " ++ rest

/-- Write a line with a bold heading to standard output. -/
def printHeaded (heading rest : Text) : Effect Unit := do
  Host.print (headed (← get) heading rest)

end FfiBindings.Command

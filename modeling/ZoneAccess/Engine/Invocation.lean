import ZoneAccess.Directive
import ZoneAccess.Duration
import ZoneAccess.SystemError

namespace ZoneAccess

/-!
# Invocations

One run of the engine, from the outside.

* `Invocation` — what is run: a program and its arguments;
* `Termination` — how the run ended;
* `Report` — what a run that ended leaves: how it ended and what it wrote;
* `EngineError` — why there was no run to the end.
-/

/-- A program and its arguments. -/
structure Invocation where
  program : String
  args : List String
  deriving DecidableEq

/-- The engine runs a directive. -/
def Invocation.directive (program directive : String) : Invocation :=
  ⟨program, ["-q", "-t", directive]⟩

/-- The engine says its version. -/
def Invocation.version (program : String) : Invocation := ⟨program, ["--version"]⟩

/-- How a run of the engine ended. -/
inductive Termination
  | exited (status : Int)
  | signalled (signal : Option Int)
  | timedOut (after : Duration)
  | interrupted
  deriving DecidableEq

/-- The exit status of a run that exited. -/
def Termination.exitStatus? : Termination → Option Int
  | exited status => some status
  | _ => none

/-- What a run that ended leaves behind. -/
structure Report where
  termination : Termination
  stdout : String
  stderr : String
  deriving DecidableEq

/-- Why the engine could not be run to its end. -/
inductive EngineError
  | notFound (program : String)
  | notStarted (program : String) (cause : SystemError)
  | lost (program : String) (cause : SystemError)
  deriving DecidableEq

namespace EngineError

/-- The error of a program that the system did not start. -/
def ofStart (program : String) (cause : SystemError) : EngineError :=
  if cause = .notFound then notFound program else notStarted program cause

/-- The wording of an error. -/
def message : EngineError → String
  | notFound program => "inference engine executable '" ++ program ++ "' was not found"
  | notStarted program cause =>
    "inference engine '" ++ program ++ "' failed to start: " ++ cause.message
  | lost program cause =>
    "I/O error while running inference engine '" ++ program ++ "': " ++ cause.message

end EngineError

end ZoneAccess

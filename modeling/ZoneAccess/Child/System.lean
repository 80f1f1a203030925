import ZoneAccess.Child.Runner
import ZoneAccess.Engine.Desk
import ZoneAccess.Settings.Value

namespace ZoneAccess.Child

/-!
# Engines that are child processes

An engine that is run as a child process for every invocation, on an operating system that
may answer anything.

* `System σ` — an operating system with states `σ`: what it answers to a run;
* `Limits.ofSettings` — what ends a run, by the settings of the program;
* `Run`, `Supervisor σ` — a run on record, and what the engine holds: the state of the system
  and every run so far;
* `System.engine` — the engine: each invocation is a run, and the reply is its result.
-/

variable {σ : Type}

/-- The part of the system in one run: its answers, and whether it delivers an interrupt to
    the program meanwhile. -/
structure Turn where
  interrupted : Bool
  answers : Answers

/-- An operating system with states `σ`. It is told what is to be run within which limits, and
    whether an interrupt has been raised before. -/
structure System (σ : Type) where
  turn : Invocation → Limits → Bool → σ → Turn × σ

/-- The answers of a system that does not start the child. -/
def Answers.refused (cause : SystemError) : Answers where
  start := .error cause
  polls := []
  stdout := .expired
  stderr := .expired

/-- The limits of every run of the engine: the time that the settings give to a query, if they
    do, and an interrupt. -/
def Limits.ofSettings (s : Settings) : Limits := ⟨s.queryTimeout, true⟩

/-- A run on record: what was run, and what it came to; nothing if it never came back. -/
structure Run where
  invocation : Invocation
  outcome : Option RunResult

/-- What is replied for a run. One that never comes back has no reply, and the program goes on
    waiting; as an engine has to reply something, it counts as lost. -/
def Run.reply (r : Run) : Except EngineError Report :=
  match r.outcome with
  | some outcome => outcome.result
  | none => .error (.lost r.invocation.program (.other "the run does not end"))

/-- What an engine holds that runs child processes: the state of the system, and the runs so
    far. -/
structure Supervisor (σ : Type) where
  system : σ
  runs : List Run

/-- The supervisor before the first run. -/
def Supervisor.fresh (system : σ) : Supervisor σ := ⟨system, []⟩

namespace System

/-- The run of an invocation that the system does its part in. -/
def runOf (s : System σ) (l : Limits) (i : Invocation) (raised : Bool) (state : σ) : Run :=
  ⟨i, run i.program l (s.turn i l raised state).1.answers⟩

/-- The engine that runs a child process for every invocation. -/
def engine (s : System σ) (l : Limits) : Engine (Supervisor σ) where
  launch i raised v :=
    let (turn, system) := s.turn i l raised v.system
    let run := s.runOf l i raised v.system
    (⟨turn.interrupted, run.reply⟩, ⟨system, v.runs ++ [run]⟩)

end System

end ZoneAccess.Child

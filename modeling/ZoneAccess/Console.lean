import ZoneAccess.Engine.Desk
import ZoneAccess.RunError

namespace ZoneAccess

/-!
# The console

* `Sink` — a stream that takes bytes, perhaps only so many: what is too much is cut off, and
  the write fails;
* `Console σ` — the two streams of the program and the desk with its engine;
* `Act σ α` — something done at a console, which may end the run with an error; what
  was written and invoked before the error stays;
* `say`, `warn`, `atDesk`, `whileBusy` — the things that can be done.
-/

/-- A stream: what it has taken, and how much more it can take, if that is limited. -/
structure Sink where
  stored : Bytes
  room : Option Nat
  deriving DecidableEq

namespace Sink

/-- A stream that has taken nothing and can take so much. -/
def empty (limit : Option Nat) : Sink := ⟨[], limit⟩

/-- Why a full stream takes no more. -/
def full : SystemError := .other "sink full"

/-- Writes bytes: whether all of them went in, and the stream after that. -/
def put (bytes : Bytes) (s : Sink) : Bool × Sink :=
  match s.room with
  | none => (true, ⟨s.stored ++ bytes, none⟩)
  | some room =>
    if bytes.length ≤ room then (true, ⟨s.stored ++ bytes, some (room - bytes.length)⟩)
    else (false, ⟨s.stored ++ bytes.take room, some 0⟩)

end Sink

/-- The streams of the program, and the desk with its engine. -/
structure Console (σ : Type) where
  desk : Desk σ
  out : Sink
  err : Sink

/-- Something done at a console. -/
abbrev Act (σ α : Type) := ExceptT RunError (StateM (Console σ)) α

/-- How a run of the program ends. -/
inductive ExitStatus
  | success
  | failure
  deriving DecidableEq

namespace Act

variable {σ α : Type}

/-- The result of what is done at a console, and the console after it. -/
def perform (s : Act σ α) (c : Console σ) : Except RunError α × Console σ :=
  (ExceptT.run s).run c

/-- Writes text to stdout; `problem` is what a failure is. -/
def sayOr (problem : SystemError → RunError) (text : String) : Act σ Unit :=
  fun c =>
    let (ok, out) := c.out.put (Utf8.encode text)
    (if ok then .ok () else .error (problem Sink.full), { c with out := out })

/-- Writes text to stdout. -/
def say (text : String) : Act σ Unit := sayOr .writeOutput text

/-- Writes text to stderr. -/
def warn (text : String) : Act σ Unit :=
  fun c =>
    let (ok, err) := c.err.put (Utf8.encode text)
    (if ok then .ok () else .error (.writeOutput Sink.full), { c with err := err })

/-- Does something at the desk. -/
def atDesk (work : Desk σ → α × Desk σ) : Act σ α :=
  fun c =>
    let (a, desk) := work c.desk
    (.ok a, { c with desk := desk })

/-- Does something at the desk that an interrupt cancels. -/
def whileBusy (work : Desk σ → α × Desk σ) : Act σ α := atDesk (Desk.whileBusy work)

/-- The state of the interrupts. -/
def interrupts : Act σ Interrupts := atDesk fun d => (d.interrupts, d)

end Act

end ZoneAccess

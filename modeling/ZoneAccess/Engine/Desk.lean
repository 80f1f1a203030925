import ZoneAccess.Engine.Invocation
import ZoneAccess.Interrupts

namespace ZoneAccess

/-!
# The engine at work

* `Engine σ` — anything that answers invocations, with states `σ` of its own;
* `Desk σ` — what the program holds while it works with an engine: the engine's state, the
  interrupts, and the record of every invocation and of every reaction to an interrupt;
* `Desk.launch` — one invocation, recorded;
* `Desk.whileBusy` — work during which interrupts cancel.
-/

variable {σ α : Type}

/-- What a launch comes to: its result, and whether an interrupt was delivered while the
    engine ran. -/
structure Reply where
  interrupted : Bool
  result : Except EngineError Report

/-- An engine with states `σ`. It is told what to run and whether an interrupt has been
    raised before. -/
structure Engine (σ : Type) where
  launch : Invocation → Bool → σ → Reply × σ

/-- What the program holds while it works with an engine. -/
structure Desk (σ : Type) where
  engine : σ
  interrupts : Interrupts
  invocations : List Invocation
  actions : List InterruptAction

namespace Desk

/-- The desk before any work, with an engine in its first state. -/
def fresh (engine : σ) : Desk σ := ⟨engine, .fresh, [], []⟩

/-- An interrupt is delivered: the reaction goes on record. -/
def interrupt (d : Desk σ) : Desk σ :=
  { d with
    interrupts := d.interrupts.react.2
    actions := d.actions ++ [d.interrupts.react.1] }

/-- One invocation of the engine. -/
def launch (e : Engine σ) (i : Invocation) (d : Desk σ) : Except EngineError Report × Desk σ :=
  let (reply, engine) := e.launch i d.interrupts.raised d.engine
  let d := { d with engine := engine, invocations := d.invocations ++ [i] }
  (reply.result, if reply.interrupted then d.interrupt else d)

/-- Work during which an interrupt cancels. -/
def whileBusy (work : Desk σ → α × Desk σ) (d : Desk σ) : α × Desk σ :=
  let (a, d) := work { d with interrupts := d.interrupts.beginWork }
  (a, { d with interrupts := d.interrupts.endWork })

end Desk

end ZoneAccess

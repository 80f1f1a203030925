namespace ZoneAccess

/-!
# Interrupts

How the program takes an interrupt depends on what it is doing when one arrives.

* `Interrupts` — whether one has arrived, whether the engine is left alone, whether a
  session has begun;
* `Interrupts.react` — an interrupt arrives: it cancels work of the engine, says farewell
  at the prompt of a session, and aborts anything else;
* `Interrupts.Step`, `Interrupts.perform` — what can be done to the interrupts, and the
  reactions that come of it. A section of work marks the engine as left alone when it ends,
  also when it ends inside another section.

A copy shares the state it was made from, so that steps on copies are steps on the one
state.
-/

/-- What an interrupt does. -/
inductive InterruptAction
  | cancel
  | farewell
  | abort
  deriving DecidableEq

/-- The state that interrupts act on. -/
structure Interrupts where
  /-- An interrupt has arrived. -/
  raised : Bool
  /-- No work of the engine is going on. -/
  idle : Bool
  /-- A session has begun. -/
  inSession : Bool
  deriving DecidableEq

namespace Interrupts

/-- The state at the start of the program. -/
def fresh : Interrupts := ⟨false, true, false⟩

/-- A session begins. -/
def enterSession (i : Interrupts) : Interrupts := { i with inSession := true }

/-- Work of the engine begins. -/
def beginWork (i : Interrupts) : Interrupts := { i with idle := false }

/-- Work of the engine ends. -/
def endWork (i : Interrupts) : Interrupts := { i with idle := true }

/-- What an interrupt does in a state. -/
def action (i : Interrupts) : InterruptAction :=
  if !i.idle then .cancel else if i.inSession then .farewell else .abort

/-- An interrupt arrives: what it does, and the state after it. -/
def react (i : Interrupts) : InterruptAction × Interrupts :=
  (i.action, { i with raised := true })

/-- What can be done to the interrupts. -/
inductive Step
  | enterSession
  | react
  | whileBusy (body : List Step)

mutual

/-- A step: the reactions during it, in order, and the state after it. -/
def perform : Step → Interrupts → List InterruptAction × Interrupts
  | .enterSession, i => ([], i.enterSession)
  | .react, i => ([i.react.1], i.react.2)
  | .whileBusy body, i =>
    let (actions, i) := performAll body i.beginWork
    (actions, i.endWork)

/-- Steps one after the other. -/
def performAll : List Step → Interrupts → List InterruptAction × Interrupts
  | [], i => ([], i)
  | step :: steps, i =>
    let (first, i) := perform step i
    let (others, i) := performAll steps i
    (first ++ others, i)

end

end Interrupts

end ZoneAccess

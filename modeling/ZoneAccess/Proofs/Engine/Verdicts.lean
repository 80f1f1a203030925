import ZoneAccess.Engine.Verdict
import ZoneAccess.Proofs.Text.Padding

namespace ZoneAccess

/-!
# What verdicts say

* `EngineError.hasInk_message`, `Termination.hasInk_describe` — the wordings for an engine that was
  not run to its end, and for the end of a run, say something;
* `Report.exists_mark_of_mentionsError` — when an error marker was written, one of the trimmed
  streams holds it, so that there is something to quote;
* `Report.verdict_query` — what the report of a run comes to that answers a query.
-/

/-- The wording of an engine error says something, whatever the program and the cause. -/
theorem EngineError.hasInk_message (e : EngineError) : Text.hasInk e.message = true := by
  cases e with
  | notFound program =>
    have hstart : Text.hasInk "inference engine executable '" = true := by decide
    exact Text.hasInk_append_append hstart _ _
  | notStarted program cause =>
    have hstart : Text.hasInk "inference engine '" = true := by decide
    exact Text.hasInk_append_of_left (Text.hasInk_append_append hstart _ _) _
  | lost program cause =>
    have hstart : Text.hasInk "I/O error while running inference engine '" = true := by decide
    exact Text.hasInk_append_of_left (Text.hasInk_append_append hstart _ _) _

/-- So does the wording for the end of a run. -/
theorem Termination.hasInk_describe (t : Termination) : Text.hasInk t.describe = true := by
  cases t with
  | exited status =>
    have hstart : Text.hasInk "engine exited with status " = true := by decide
    exact Text.hasInk_append_of_left hstart _
  | signalled signal =>
    cases signal with
    | none => decide
    | some signal =>
      have hstart : Text.hasInk "engine was terminated by signal " = true := by decide
      exact Text.hasInk_append_of_left hstart _
  | timedOut after =>
    have hstart : Text.hasInk "engine did not finish within " = true := by decide
    exact Text.hasInk_append_append hstart _ _
  | interrupted => decide

namespace Report

/-- To trim a stream neither takes the error marker apart nor puts one together. -/
theorem occursIn_errorMarker_trim (s : String) :
    Text.occursIn errorMarker (Text.trim s) = Text.occursIn errorMarker s :=
  Text.occursIn_trim_eq (by decide) (by decide) s

/-- **A marker that was written is found in a trimmed stream.** -/
theorem exists_mark_of_mentionsError {r : Report} (h : r.mentionsError = true) :
    Text.occursIn errorMarker (Text.trim r.stderr) = true ∨
      Text.occursIn errorMarker (Text.trim r.stdout) = true := by
  rw [occursIn_errorMarker_trim, occursIn_errorMarker_trim]
  exact (Bool.or_eq_true_iff.mp h).symm

/-- What is quoted of a run with an error marker holds the marker. -/
theorem occursIn_errorReport {r : Report} (h : r.mentionsError = true) :
    Text.occursIn errorMarker r.errorReport = true := by
  rw [errorReport]
  by_cases herr : Text.occursIn errorMarker (Text.trim r.stderr) = true
  · rw [if_pos herr]
    exact herr
  · -- The marker has to be in the other stream then.
    have hout := (exists_mark_of_mentionsError h).resolve_left herr
    rw [if_neg herr, if_pos hout]
    exact hout

/-- What a failing exit says is stderr if that is not blank, and something in any case. -/
theorem hasInk_exitMessage (r : Report) : Text.hasInk r.exitMessage = true := by
  rw [exitMessage]
  -- A blank stderr is replaced by the wording of the end.
  by_cases h : Text.trim r.stderr = ""
  · rw [if_pos h]
    exact r.termination.hasInk_describe
  · rw [if_neg h]
    exact Text.hasInk_trim h

/-- Only a run that exited has an exit status. -/
theorem exitStatus?_eq_some_iff {t : Termination} {status : Int} :
    t.exitStatus? = some status ↔ t = .exited status := by
  cases t <;> simp [Termination.exitStatus?]

/-- **What a query comes to**: the trimmed stdout of a run that exited with 0, if that does not
    begin with the error marker, and else a runtime error that says something. -/
theorem verdict_query (r : Report) :
    (r.termination = .exited 0 ∧ r.verdict .query = .success (Text.trim r.stdout) ∧
      Text.startsWith errorMarker (Text.trim r.stdout) = false) ∨
    ∃ m, r.verdict .query = .runtimeError m ∧ Text.hasInk m = true := by
  have hmarker : Text.hasInk errorMarker = true := by decide
  cases hstatus : r.termination.exitStatus? with
  | none =>
    refine .inr ⟨r.termination.describe, ?_, r.termination.hasInk_describe⟩
    rw [verdict, hstatus]
  | some status =>
    by_cases hzero : status = 0
    · subst hzero
      have hexited := exitStatus?_eq_some_iff.mp hstatus
      cases hmark : Text.startsWith errorMarker (Text.trim r.stdout) with
      | true =>
        refine .inr ⟨Text.trim r.stdout, ?_, ?_⟩
        · simp [verdict, hstatus, hmark]
        · exact Text.hasInk_of_occursIn (Text.occursIn_of_startsWith hmark) hmarker
      | false => exact .inl ⟨hexited, by simp [verdict, hstatus, hmark], rfl⟩
    · refine .inr ⟨r.exitMessage, ?_, r.hasInk_exitMessage⟩
      simp [verdict, hstatus, hzero, Stage.failure]

end Report

end ZoneAccess

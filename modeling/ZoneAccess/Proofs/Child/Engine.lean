import ZoneAccess.Child.System
import ZoneAccess.Proofs.Child.Reporting
import ZoneAccess.Proofs.Pipeline.Launches

namespace ZoneAccess.Child

/-!
# Questions that child processes answer

What the pipeline makes of an engine that is run as child processes.

* `RunResult.LeavesNothing` — a run has left no child behind; every run that comes back is of this
  kind (`run_leavesNothing`);
* `exists_await_of_ends` — a wait comes to what the first poll says that gives a reason;
  `exists_run_of_ends` says the same of a whole run, with what was read of the two streams;
* `launch_run` — a launch is one run, and its result is that of the run;
* `ask_of_run` — so is a question, and its outcome is what is made of the result;
* `ask_of_ends`, `ask_of_timedOut` — the outcome of a question is the verdict on what the run
  reports, and one that takes too long is answered with the limit of the settings.
-/

/-! ### What a run leaves -/

/-- A run has left nothing behind: there was no child, or its group was killed behind the last poll
    and it was reaped once. -/
def RunResult.LeavesNothing (r : RunResult) : Prop :=
  r.guard.calls = [.start] ∨ r.guard.Killed ∧ r.guard.calls.countP Call.reaps = 1

/-- **A run that comes back has left nothing behind.** -/
theorem run_leavesNothing {program : String} {l : Limits} {a : Answers} {r : RunResult}
    (hrun : run program l a = some r) : r.LeavesNothing := by
  cases hstart : a.start with
  | error cause =>
    rw [run, hstart] at hrun
    obtain rfl := Option.some.inj hrun
    exact .inl rfl
  | ok started =>
    -- A run that was started has terminated its child last, behind a poll.
    obtain ⟨g, gs, hsteps, hpolled, hguard⟩ := exists_last_terminate hstart hrun
    obtain ⟨hkilled, hreaped, -⟩ := hsteps.terminate_killed hpolled
    rw [← hguard] at hkilled hreaped
    exact .inr ⟨hkilled, hreaped⟩

/-! ### What a run comes to -/

section Ends

variable {program : String} {l : Limits} {before : List Poll} {p : Poll}
  {waited : Except EngineError Termination} {calls : List Call}

/-- Behind a poll that gives no reason to stop, a wait goes on. -/
theorem await_of_not_due (h : ¬ p.Due l) (g : Guard) (polls : List Poll) :
    await program l g (p :: polls) = await program l (g.look (.ok none)) polls := by
  have hrunning : p.status = .ok none := Classical.byContradiction fun hne => h (.inl hne)
  have hstop : l.stop? p = none := (stop?_eq_none_iff hrunning).mpr h
  rw [await]
  simp only [hrunning, hstop]

/-- At one that gives a reason it stops, and comes to what the poll says. -/
theorem exists_await_cons_of_ends (h : p.Ends program l waited calls) (g : Guard)
    (polls : List Poll) : ∃ last, await program l g (p :: polls) = some (waited, last) := by
  unfold await
  cases h with
  | exited h | signalled h | lost h =>
    simp only [h]
    exact ⟨_, rfl⟩
  | interrupted hrunning hup =>
    have hstop : l.stop? p = some .interrupted := by
      rw [Limits.stop?, if_pos (by simpa using hup)]
    simp only [hrunning, hstop]
    exact ⟨_, rfl⟩
  | @timedOut timeout hrunning hup htimeout hover =>
    have hstop : l.stop? p = some (.timedOut timeout) := by
      rw [Limits.stop?, if_neg (by simpa using hup), htimeout]
      exact if_pos (decide_eq_true hover)
    simp only [hrunning, hstop]
    exact ⟨_, rfl⟩

/-- **A wait comes to what the first poll says that gives a reason**, whatever the later ones
    would. -/
theorem exists_await_of_ends (hbefore : ∀ q ∈ before, ¬ q.Due l)
    (h : p.Ends program l waited calls) (after : List Poll) (g : Guard) :
    ∃ last, await program l g (before ++ p :: after) = some (waited, last) := by
  -- Each poll that is passed changes the guard, so the claim is about all guards.
  induction before generalizing g with
  | nil => exact exists_await_cons_of_ends h g after
  | cons q before ih =>
    have hq : ¬ q.Due l := hbefore q List.mem_cons_self
    rw [List.cons_append, await_of_not_due hq]
    exact ih (fun q' hq' => hbefore q' (List.mem_cons_of_mem q hq')) _

/-- **A run comes to what that poll and its streams say.** -/
theorem exists_run_of_ends (hbefore : ∀ q ∈ before, ¬ q.Due l)
    (h : p.Ends program l waited calls) (after : List Poll) {out err : List Read}
    {outText errText : Except EngineError String} (hout : Shows program out outText)
    (herr : Shows program err errText) :
    ∃ r, run program l ⟨.ok (), before ++ p :: after, .ofReads [] out, .ofReads [] err⟩ = some r ∧
      r.result = do
        let termination ← waited
        let stdout ← outText
        let stderr ← errText
        return ⟨termination, stdout, stderr⟩ := by
  obtain ⟨last, hawait⟩ := exists_await_of_ends hbefore h after .started
  rw [run_of_started rfl, hawait, ← shows_iff.mp hout, ← shows_iff.mp herr]
  cases waited with
  | error problem => exact ⟨_, rfl, rfl⟩
  | ok termination => exact ⟨_, rfl, rfl⟩

end Ends

/-! ### Launches and questions -/

section Pipeline

variable {σ : Type} (s : System σ) (l : Limits) (p : Pipeline) (d : Desk (Supervisor σ))

/-- The run of an invocation from a desk. -/
def System.runAt (i : Invocation) : Run := s.runOf l i d.interrupts.raised d.engine.system

/-- **A launch is one run**: its result is that of the run, which goes on record. -/
theorem launch_run (i : Invocation) :
    (d.launch (s.engine l) i).1 = (s.runAt l d i).reply ∧
      (d.launch (s.engine l) i).2.engine.runs = d.engine.runs ++ [s.runAt l d i] := by
  refine ⟨rfl, ?_⟩
  unfold Desk.launch
  dsimp only
  -- An interrupt that comes with the run leaves the record of runs alone.
  split <;> rfl

variable {question : String} {i : Invocation} (hquestion : p.questionInvocation? question = some i)
include hquestion

/-- **A question is one run**, and its outcome is what is made of the result. -/
theorem ask_of_run :
    (p.ask (s.engine l) question d).1 = Pipeline.answerFrom (s.runAt l d i).reply ∧
      (p.ask (s.engine l) question d).2.engine.runs = d.engine.runs ++ [s.runAt l d i] := by
  obtain ⟨hresult, hruns⟩ := launch_run s l d i
  rw [p.ask_of_some (s.engine l) d hquestion]
  exact ⟨congrArg Pipeline.answerFrom hresult, hruns⟩

variable {before after : List Poll} {poll : Poll} {calls : List Call} {out err : List Read}
  {outText errText : String} {termination : Termination}

/-- **The outcome of a question is the verdict on its run**: on how the wait ended, and on what was
    read of the two streams. -/
theorem ask_of_ends
    (hanswers : (s.turn i l d.interrupts.raised d.engine.system).1.answers
      = ⟨.ok (), before ++ poll :: after, .ofReads [] out, .ofReads [] err⟩)
    (hbefore : ∀ q ∈ before, ¬ q.Due l) (hends : poll.Ends i.program l (.ok termination) calls)
    (hout : Shows i.program out (.ok outText)) (herr : Shows i.program err (.ok errText)) :
    (p.ask (s.engine l) question d).1
      = (Report.mk termination outText errText).verdict .query := by
  obtain ⟨r, hrun, hresult⟩ := exists_run_of_ends hbefore hends after hout herr
  have hreply : (s.runAt l d i).reply = .ok ⟨termination, outText, errText⟩ := by
    rw [System.runAt, System.runOf, hanswers, hrun]
    exact hresult
  rw [(ask_of_run s l p d hquestion).1, hreply]
  rfl

/-- **A question that takes too long** is answered with the limit that the settings give, whatever
    the engine has written by then. -/
theorem ask_of_timedOut {settings : Settings} {timeout : Duration}
    (htimeout : settings.queryTimeout = some timeout)
    (hanswers : (s.turn i (.ofSettings settings) d.interrupts.raised d.engine.system).1.answers
      = ⟨.ok (), before ++ poll :: after, .ofReads [] out, .ofReads [] err⟩)
    (hbefore : ∀ q ∈ before, ¬ q.Due (.ofSettings settings))
    (hrunning : poll.status = .ok none) (hraised : poll.raised = false)
    (hover : timeout.toNanos ≤ poll.elapsed.toNanos)
    (hout : Shows i.program out (.ok outText)) (herr : Shows i.program err (.ok errText)) :
    (p.ask (s.engine (.ofSettings settings)) question d).1
      = .runtimeError ("engine did not finish within " ++ timeout.text ++ " and was stopped") := by
  have hends : poll.Ends i.program (.ofSettings settings) (.ok (.timedOut timeout))
      [.poll false, .killGroup, .killChild, .reap] := by
    refine .timedOut hrunning ?_ htimeout hover
    rw [hraised]
    -- An interrupt would come first, but none is up.
    exact fun hup => Bool.false_ne_true hup.2
  rw [ask_of_ends s _ p d hquestion hanswers hbefore hends hout herr]
  rfl

end Pipeline

end ZoneAccess.Child

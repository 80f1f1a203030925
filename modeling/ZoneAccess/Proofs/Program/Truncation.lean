import ZoneAccess.Proofs.Console.Truncation
import ZoneAccess.Proofs.Program.Modes

namespace ZoneAccess

/-!
# Runs with streams that fill up

A stream that takes no more bytes ends a run, and nothing else comes of it.

* `Session.run_truncates` — a session is at most cut short by limits of its streams;
* `Program.execute_truncates` — so is all that can be asked for;
* `Program.execute_json` — what a check or a question writes as a record, and how it fails;
* `Program.execute_truncated` — what a run comes to with limits, compared with the run without.
-/

variable {σ : Type}

/-! ### Sessions -/

namespace Session

/-- A farewell is at most cut short by limits. -/
theorem truncates_finish : (finish : Act σ ExitStatus).Truncates (· = .writeOutput Sink.full) :=
  (Act.truncates_say _).bind fun _ => Act.truncates_pure _

/-- So is a farewell on a line of its own. -/
theorem truncates_finishOnNewLine :
    (finishOnNewLine : Act σ ExitStatus).Truncates (· = .writeOutput Sink.full) :=
  (Act.truncates_say "\n").bind fun _ => truncates_finish

/-- So is the report of an outcome. -/
theorem truncates_report (o : Outcome) :
    (report o : Act σ Unit).Truncates (· = .writeOutput Sink.full) := by
  cases o with
  | success answer => exact Act.truncates_say _
  | setupError m => exact Act.truncates_warn _
  | runtimeError m => exact Act.truncates_warn _

/-- A session looks whether an interrupt has been raised without writing anything. -/
theorem ifRaised_truncates {ended next : Act σ ExitStatus} {failure : RunError → Prop}
    (hended : ended.Truncates failure) (hnext : next.Truncates failure) :
    (do if (← Act.interrupts).raised then ended else next : Act σ ExitStatus).Truncates
      failure := by
  refine Act.truncates_interrupts.bind fun i => ?_
  by_cases hraised : i.raised = true
  · rw [if_pos hraised]
    exact hended
  · rw [if_neg hraised]
    exact hnext

/-- A setup check adds to the record of invocations. -/
theorem invocations_prefix_checked (p : Pipeline) (fs : FileSystem) (e : Engine σ) (d : Desk σ) :
    d.invocations <+: (checked p fs e d).invocations := by
  obtain ⟨made, -, hworked, -⟩ := checked_worked p e fs d
  exact ⟨made, hworked.invocations.symm⟩

/-- So does a question, if it is sent. -/
theorem invocations_prefix_asked (p : Pipeline) (e : Engine σ) (question : String) (d : Desk σ) :
    d.invocations <+: (Desk.whileBusy (p.ask e question) d).2.invocations :=
  ⟨_, (p.whileBusy_ask_invocations e d question).symm⟩

/-- Whatever a session does with a text behind the prompt, limits at most cut it short, if they do
    so with the rest of the session. -/
theorem answerText_truncates (p : Pipeline) (e : Engine σ) (text : String) {rest : List Arrival}
    (hrest : (answerLines p e rest).Truncates (· = .writeOutput Sink.full)) :
    (answerText p e text rest).Truncates (· = .writeOutput Sink.full) := by
  rw [answerText]
  -- In the order in which a session tells its lines apart.
  by_cases hblank : Text.trim text = ""
  · rw [if_pos hblank]
    exact hrest
  · rw [if_neg hblank]
    by_cases hexit : isExitLine text = true
    · rw [if_pos hexit]
      exact truncates_finish
    · rw [if_neg hexit]
      by_cases htokens : Question.tokens text = []
      · rw [if_pos htokens]
        exact (Act.truncates_say _).bind fun _ => hrest
      · rw [if_neg htokens]
        refine (Act.truncates_atDesk (invocations_prefix_asked p e text)).bind fun o => ?_
        exact ifRaised_truncates truncates_finishOnNewLine
          ((truncates_report o).bind fun _ => hrest)

/-- **From its first prompt on a session is at most cut short by limits.** -/
theorem answerLines_truncates (p : Pipeline) (e : Engine σ) (input : List Arrival) :
    (answerLines p e input).Truncates (· = .writeOutput Sink.full) := by
  induction input with
  | nil =>
    rw [answerLines]
    exact ifRaised_truncates truncates_finish
      ((Act.truncates_say prompt).bind fun _ => truncates_finishOnNewLine)
  | cons arrival rest ih =>
    cases arrival with
    | interrupt =>
      rw [answerLines]
      refine ifRaised_truncates truncates_finish ((Act.truncates_say prompt).bind fun _ => ?_)
      have hkeeps (d : Desk σ) : d.invocations <+: ((), d.interrupt).2.invocations :=
        List.prefix_refl _
      exact (Act.truncates_atDesk hkeeps).bind fun _ => truncates_finishOnNewLine
    | failed cause =>
      rw [answerLines]
      exact ifRaised_truncates truncates_finish
        ((Act.truncates_say prompt).bind fun _ => Act.truncates_throw _)
    | line bytes =>
      cases hline : Utf8.decode? bytes with
      | none =>
        rw [answerLines, hline]
        exact ifRaised_truncates truncates_finish
          ((Act.truncates_say prompt).bind fun _ => Act.truncates_throw _)
      | some text =>
        rw [answerLines_of_text p e rest hline]
        exact ifRaised_truncates truncates_finish
          ((Act.truncates_say prompt).bind fun _ => answerText_truncates p e text ih)

/-- **A session is at most cut short by limits.** -/
theorem run_truncates (p : Pipeline) (fs : FileSystem) (e : Engine σ) (input : List Arrival) :
    (run p fs e input).Truncates (· = .writeOutput Sink.full) := by
  rw [run]
  refine (Act.truncates_say _).bind fun _ => ?_
  refine (Act.truncates_atDesk (invocations_prefix_checked p fs e)).bind fun setup => ?_
  -- Either kind of failure is reported in two writes.
  have hfailure (m : String) :
      (do
        Act.warn ("Setup error: " ++ m ++ "\n")
        Act.warn (setupHint ++ "\n")
        return .failure : Act σ ExitStatus).Truncates (· = .writeOutput Sink.full) :=
    (Act.truncates_warn _).bind fun _ => (Act.truncates_warn _).bind fun _ => Act.truncates_pure _
  cases setup with
  | success summary =>
    have henter (d : Desk σ) : d.invocations
        <+: ((), { d with interrupts := d.interrupts.enterSession }).2.invocations :=
      List.prefix_refl _
    refine (Act.truncates_say _).bind fun _ => ?_
    exact (Act.truncates_atDesk henter).bind fun _ => answerLines_truncates p e input
  | setupError m => exact hfailure m
  | runtimeError m => exact hfailure m

end Session

/-! ### Outcomes -/

namespace Program

/-- What a request can fail in when a stream is full: in a write, or, if its outcome is written as
    a record, in the making of that. -/
def Failure (r : Request) (problem : RunError) : Prop :=
  problem = .writeOutput Sink.full ∨
    problem = .serialiseOutcome Sink.full ∧ Recorded r ∧ r.format = .json

/-- Writing the outcome of a request is at most cut short by limits. As text it is a single write;
    a record and its line break are two, which fail in different ways. -/
theorem truncates_write {r : Request} (hrecorded : Recorded r) (o : Outcome) :
    (o.write r.format : Act σ Unit).Truncates (Failure r) := by
  cases hformat : r.format with
  | human =>
    rw [Outcome.write]
    by_cases h : o.isSuccess = true
    · rw [if_pos h]
      exact (Act.truncates_say _).mono fun _ => .inl
    · rw [if_neg h]
      exact (Act.truncates_warn _).mono fun _ => .inl
  | json =>
    -- A record fails as such, and its line break as any other output.
    have hrecord : (Act.sayOr .serialiseOutcome o.record : Act σ Unit).Truncates (Failure r) :=
      (Act.truncates_sayOr _ _).mono fun _ h => .inr ⟨h, hrecorded, hformat⟩
    have hbreak : (Act.say "\n" : Act σ Unit).Truncates (Failure r) :=
      (Act.truncates_say _).mono fun _ => .inl
    exact hrecord.bind fun _ => hbreak

/-- A fresh stream takes a record that is within its limit. -/
theorem perform_record (o : Outcome) (desk : Desk σ) (n : Nat) (err : Sink) :
    (Act.sayOr .serialiseOutcome o.record : Act σ Unit).perform ⟨desk, .empty (some n), err⟩
      = (if (Utf8.encode o.record).length ≤ n then .ok ()
          else .error (.serialiseOutcome Sink.full),
          ⟨desk, ⟨(Utf8.encode o.record).take n, some (n - (Utf8.encode o.record).length)⟩,
            err⟩) := by
  -- A stream that has taken nothing has all of its room left.
  have hput := Sink.put_limited [] (Utf8.encode o.record) n
  rw [Act.perform_sayOr, Sink.empty, hput]
  simp

/-- When the writing of a record fails, its length tells in what: in the record, if that is too
    long, and else in the line break. -/
theorem error_of_write_json {o : Outcome} {exit : ExitStatus} {desk : Desk σ} {n : Nat}
    {err : Sink} {problem : RunError}
    (h : ((do o.write .json; return exit : Act σ ExitStatus).perform
      ⟨desk, .empty (some n), err⟩).1 = .error problem) :
    problem = if n < (Utf8.encode o.record).length then .serialiseOutcome Sink.full
      else .writeOutput Sink.full := by
  rw [Act.perform_bind, Outcome.write, Act.perform_bind, perform_record] at h
  by_cases hlong : n < (Utf8.encode o.record).length
  · simp only [if_neg (Nat.not_le.mpr hlong), Except.error.injEq] at h
    rw [if_pos hlong, h]
  · simp only [if_pos (Nat.not_lt.mp hlong), Act.say, Act.perform_sayOr] at h
    rw [if_neg hlong]
    -- The line break is what is left to fail.
    generalize (Sink.put _ _).1 = fits at h
    cases fits with
    | true => cases h
    | false => exact (Except.error.inj h).symm

/-! ### All that can be asked for -/

variable (r : Request) (p : Pipeline) (fs : FileSystem) (e : Engine σ)
  (input : List Session.Arrival)

/-- **All that can be asked for is at most cut short by limits.** -/
theorem execute_truncates : (execute r p fs e input).Truncates (Failure r) := by
  -- A setup check is work at the desk, which limits do not touch.
  have hchecked : (Act.whileBusy (p.checkSetup fs e) : Act σ Outcome).Truncates (Failure r) :=
    Act.truncates_atDesk (Session.invocations_prefix_checked p fs e)
  have hwrite (hrecorded : Recorded r) (o : Outcome) (exit : ExitStatus) :
      (do o.write r.format; return exit : Act σ ExitStatus).Truncates (Failure r) :=
    (truncates_write hrecorded o).bind fun _ => Act.truncates_pure exit
  rw [execute]
  by_cases hcheck : r.check = true
  · rw [if_pos hcheck]
    exact hchecked.bind fun setup => hwrite (.inl hcheck) setup _
  · rw [if_neg hcheck]
    cases hquestion : r.question? with
    | none => exact (Session.run_truncates p fs e input).mono fun _ => .inl
    | some question =>
      have hrecorded : Recorded r := .inr (by rw [hquestion]; rfl)
      refine hchecked.bind fun setup => ?_
      by_cases hsetup : setup.isSuccess = true
      · rw [if_pos hsetup]
        have hasked := Session.invocations_prefix_asked p e question
        exact (Act.truncates_atDesk hasked).bind fun answer => hwrite hrecorded answer _
      · rw [if_neg hsetup]
        exact hwrite hrecorded setup .failure

/-- **What a check or a question writes as a record**, and how it fails when stdout takes only so
    many bytes. -/
theorem execute_json (hrecorded : Recorded r) (hformat : r.format = .json) (d : Desk σ)
    (n : Nat) (err : Sink) :
    ∃ o : Outcome, ((execute r p fs e input).perform ⟨d, .empty none, .empty none⟩).2.out.stored
        = Utf8.encode (o.record ++ "\n") ∧
      ∀ problem, ((execute r p fs e input).perform ⟨d, .empty (some n), err⟩).1 = .error problem →
        problem = if n < (Utf8.encode o.record).length then .serialiseOutcome Sink.full
          else .writeOutput Sink.full := by
  obtain ⟨o, exit, desk, hperform⟩ := exists_write_of_recorded p fs e input d hrecorded
  rw [hformat] at hperform
  refine ⟨o, ?_, fun problem hproblem => ?_⟩
  · -- Without limits both writes go in.
    have hfresh : (⟨desk, .empty none, .empty none⟩ : Console σ) = .unlimited desk [] [] := rfl
    rw [hperform, hfresh]
    simp only [Outcome.write, Act.perform_bind, Act.perform_sayOr_unlimited,
      Act.perform_say_unlimited, Act.perform_pure, List.nil_append, Utf8.encode_append]
    rfl
  · rw [hperform] at hproblem
    exact error_of_write_json hproblem

/-- **Output failures only truncate.** Let the streams take everything in one run, and `n` and `m`
    bytes in another. If all that is written is within these limits, the runs are the same.
    Otherwise the limited run is cut short:
    * what it has written and invoked by then is the first part of what the other run has;
    * one of its streams is filled exactly to the limit;
    * it ends in a failure to write, which is that of a record exactly if a check or a question
      was to be written as one, and the record without its line break is past the limit. -/
theorem execute_truncated (d : Desk σ) (n m : Nat) :
    let full := (execute r p fs e input).perform ⟨d, .empty none, .empty none⟩
    let short := (execute r p fs e input).perform ⟨d, .empty (some n), .empty (some m)⟩
    if full.2.out.stored.length ≤ n ∧ full.2.err.stored.length ≤ m then
      short.1 = full.1 ∧ short.2.out.stored = full.2.out.stored ∧
        short.2.err.stored = full.2.err.stored ∧ short.2.desk = full.2.desk
    else
      short.2.out.stored <+: full.2.out.stored ∧ short.2.err.stored <+: full.2.err.stored ∧
        (short.2.out.stored.length = n ∨ short.2.err.stored.length = m) ∧
        short.2.desk.invocations <+: full.2.desk.invocations ∧
        ∃ problem, short.1 = .error problem ∧
          (problem = .serialiseOutcome Sink.full ∨ problem = .writeOutput Sink.full) ∧
          (problem = .serialiseOutcome Sink.full ↔
            (r.check = true ∨ r.question?.isSome = true) ∧ r.format = .json ∧
              ∃ o : Outcome, full.2.out.stored = Utf8.encode (o.record ++ "\n") ∧
                n < (Utf8.encode o.record).length) := by
  intro full short
  let fresh : Console σ := ⟨d, .empty none, .empty none⟩
  have hrun := execute_truncates r p fs e input fresh ⟨rfl, rfl⟩
  split
  · next hfits =>
    -- Within the limits nothing changes.
    have hsame : short = (full.1, full.2.limited n m) := hrun.same n m ⟨hfits.1, hfits.2⟩
    rw [hsame]
    exact ⟨rfl, rfl, rfl, rfl⟩
  · next hlong =>
    -- The limited run is cut at the first write that does not fit.
    have hempty : fresh.Fits n m := ⟨Nat.zero_le n, Nat.zero_le m⟩
    obtain ⟨problem, hfailure, herror, hextends, hfilled⟩ :=
      hrun.cut n m hempty fun hfits => hlong ⟨hfits.out, hfits.err⟩
    refine ⟨hextends.out, hextends.err, hfilled, hextends.invocations, problem, herror, ?_, ?_, ?_⟩
    · exact hfailure.symm.imp And.left id
    · rintro rfl
      obtain ⟨-, hrecorded, hformat⟩ := hfailure.resolve_left nofun
      obtain ⟨o, hout, hproblem⟩ :=
        execute_json r p fs e input hrecorded hformat d n (.empty (some m))
      refine ⟨hrecorded, hformat, o, hout, ?_⟩
      -- A record that fits leaves only the line break to fail, which is another error.
      refine Decidable.byContradiction fun hshort => ?_
      have hwrite := hproblem _ herror
      rw [if_neg hshort] at hwrite
      cases hwrite
    · rintro ⟨hrecorded, hformat, o, hout, hshort⟩
      obtain ⟨o', hout', hproblem⟩ :=
        execute_json r p fs e input hrecorded hformat d n (.empty (some m))
      -- What was written determines the record.
      have hrecord : o'.record = o.record := by
        have hwritten := Utf8.encode_inj.mp (hout'.symm.trans hout)
        exact (String.append_left_inj "\n").mp hwritten
      rw [hproblem problem herror, hrecord, if_pos hshort]

end Program

end ZoneAccess

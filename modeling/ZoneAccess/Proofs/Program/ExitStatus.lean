import ZoneAccess.Proofs.Program.Reports
import ZoneAccess.Proofs.Session.Ending

namespace ZoneAccess.Program

/-!
# How runs end

The exit status of a run and what it has written by then, with streams that take everything.

* `plan` — what a run is to do, or what keeps it from starting;
* `outcome?` — the outcome that is written by a check or a question;
* `Succeeds` — what is done comes to a good end;
* `run_of_mistake`, `run_ends_of_outcome`, `run_ends_of_session` — the ways in which runs end;
* `EndsWell`, `Tells`, `run_ends` — a run that is to end well does, and another one tells why not;
* **`run_truthful`** — a run ends well exactly if it does what it was asked for, and a failure is
  told.
-/

variable {σ : Type}

/-! ### Plans -/

/-- What a run is to do: its request, its settings, and the pipeline of these; or what keeps it
    from starting. -/
def plan (args : List Bytes) (h : Host σ) : Except RunError (Request × Settings × Pipeline) :=
  match prepare args h.around with
  | .error e => .error e
  | .ok (request, settings) =>
    if h.logs && !LogFilter.isValid settings.logFilter then
      .error (.logFilter settings.logFilter)
    else match pipelineOf settings h.around.directory with
      | .error e => .error e
      | .ok p => .ok (request, settings, p)

variable (args : List Bytes) (h : Host σ)

/-- A run does what it planned, and nothing if there is no plan. -/
theorem perform_body (c : Console σ) :
    (body args h).perform c = match plan args h with
      | .error e => (.error e, c)
      | .ok (r, s, p) => (execute r p h.around.files (h.engine s) h.input).perform c := by
  unfold body plan
  rw [Act.perform_bind, Act.perform_lift]
  -- In the order in which a run prepares: each step may be where it ends.
  cases prepare args h.around with
  | error e => rfl
  | ok prepared =>
    obtain ⟨request, settings⟩ := prepared
    dsimp only
    split
    · rfl
    · rw [Act.perform_bind, Act.perform_lift]
      cases pipelineOf settings h.around.directory <;> rfl

section Plan

variable {args h} {problem : RunError} {u : UsageError}

/-- A request that is refused keeps a run from starting. -/
theorem plan_of_refused (hparse : Request.parse (Arguments.commandArguments args) = .error u) :
    plan args h = .error (.usage u) := by
  unfold plan prepare
  rw [hparse]

/-- Only that is ever a request for information. -/
theorem parse_of_informational (hplan : plan args h = .error problem)
    (hinformational : problem.isInformational = true) :
    Request.parse (Arguments.commandArguments args) = .error .help ∨
      Request.parse (Arguments.commandArguments args) = .error .version := by
  unfold plan prepare at hplan
  cases hparse : Request.parse (Arguments.commandArguments args) with
  | error u =>
    rw [hparse] at hplan
    obtain rfl : RunError.usage u = problem := Except.error.inj hplan
    cases u <;> simp [RunError.isInformational, UsageError.isInformational] at hinformational ⊢
  | ok request =>
    rw [hparse] at hplan
    -- No other error is one, wherever it comes from.
    have hnone : problem.isInformational = false := by
      cases hload : Settings.load (Arguments.split args).settings h.around with
      | error faults =>
        rw [hload] at hplan
        rw [← Except.error.inj hplan]
        rfl
      | ok settings =>
        rw [hload] at hplan
        dsimp only at hplan
        split at hplan
        · rw [← Except.error.inj hplan]
          rfl
        · unfold pipelineOf at hplan
          cases hname : Predicate.ofName settings.entryPredicate with
          | error e =>
            rw [hname] at hplan
            rw [← Except.error.inj hplan]
            rfl
          | ok predicate =>
            rw [hname] at hplan
            cases hplan
    rw [hnone] at hinformational
    cases hinformational

end Plan

/-! ### Outcomes that are written -/

/-- The outcome that is written: that of the setup check if it is all that is asked for, or if it
    is bad; otherwise that of the question. In a session there is none. -/
def outcome? (r : Request) (p : Pipeline) (fs : FileSystem) (e : Engine σ) (d : Desk σ) :
    Option Outcome :=
  if r.check then some (p.checkSetup fs e d.busy).1
  else r.question?.map fun question =>
    if (p.checkSetup fs e d.busy).1.isSuccess then
      (Desk.whileBusy (p.ask e question) (Session.checked p fs e d)).1
    else (p.checkSetup fs e d.busy).1

/-- What is done comes to a good end: the setup is good, and there is nothing more to do, or the
    question has an answer, or the session does not come to a line that cannot be read. -/
def Succeeds (r : Request) (p : Pipeline) (fs : FileSystem) (e : Engine σ) (d : Desk σ)
    (input : List Session.Arrival) : Prop :=
  (p.checkSetup fs e d.busy).1.isSuccess = true ∧
    (r.check = true ∨
      (r.check = false ∧ ∃ question, r.question? = some question ∧
        (Desk.whileBusy (p.ask e question) (Session.checked p fs e d)).1.isSuccess = true) ∨
      (r.check = false ∧ r.question? = none ∧
        ¬ Session.MeetsUnreadable p e (Session.opened p fs e d) input))

section Execute

variable {r : Request} {p : Pipeline} {fs : FileSystem} {e : Engine σ} {d : Desk σ}
  (input : List Session.Arrival) {o : Outcome}

/-- The outcome is that of a setup check that is all, or that is bad, or of a question. -/
theorem outcome?_cases (ho : outcome? r p fs e d = some o) :
    (r.check = true ∧ o = (p.checkSetup fs e d.busy).1) ∨
    ∃ question, r.check = false ∧ r.question? = some question ∧
      (((p.checkSetup fs e d.busy).1.isSuccess = false ∧ o = (p.checkSetup fs e d.busy).1) ∨
        ((p.checkSetup fs e d.busy).1.isSuccess = true ∧
          o = (Desk.whileBusy (p.ask e question) (Session.checked p fs e d)).1)) := by
  unfold outcome? at ho
  -- A check is all that is asked for; of a question the setup decides.
  cases hcheck : r.check with
  | true =>
    rw [hcheck, if_pos rfl] at ho
    exact .inl ⟨rfl, (Option.some.inj ho).symm⟩
  | false =>
    rw [hcheck, if_neg (by decide)] at ho
    obtain ⟨question, hquestion, ho⟩ := Option.map_eq_some_iff.mp ho
    refine .inr ⟨question, rfl, hquestion, ?_⟩
    cases hsetup : (p.checkSetup fs e d.busy).1.isSuccess with
    | false =>
      rw [hsetup, if_neg (by decide)] at ho
      exact .inl ⟨rfl, ho.symm⟩
    | true =>
      rw [hsetup, if_pos rfl] at ho
      exact .inr ⟨rfl, ho.symm⟩

/-- A check or a question ends as its outcome says, which is all that is written. -/
theorem perform_execute_of_outcome (ho : outcome? r p fs e d = some o) :
    ∃ desk, (execute r p fs e input).perform (.unlimited d [] [])
      = (.ok o.exitStatus, .unlimited desk (Utf8.encode (o.outText r.format))
          (Utf8.encode (o.errText r.format))) := by
  have hwrite (o : Outcome) (exit : ExitStatus) (desk : Desk σ) :
      (do o.write r.format; return exit : Act σ ExitStatus).perform (.unlimited desk [] [])
        = (.ok exit, .unlimited desk (Utf8.encode (o.outText r.format))
            (Utf8.encode (o.errText r.format))) := by
    rw [Act.perform_bind, o.perform_write, List.nil_append, List.nil_append]
    rfl
  rcases outcome?_cases ho with
    ⟨hcheck, rfl⟩ | ⟨question, hcheck, hquestion, ⟨hsetup, rfl⟩ | ⟨hsetup, rfl⟩⟩
  · refine ⟨Session.checked p fs e d, ?_⟩
    rw [← hwrite]
    exact perform_execute_of_check p fs e input d _ _ hcheck
  · -- Here the run fails whatever the outcome is; but the outcome is a failure.
    have hexit : (p.checkSetup fs e d.busy).1.exitStatus = .failure := by
      rw [Outcome.exitStatus, hsetup]
      rfl
    refine ⟨Session.checked p fs e d, ?_⟩
    rw [hexit, ← hwrite]
    exact perform_execute_of_failure p fs e input d _ _ hcheck hquestion hsetup
  · refine ⟨(Desk.whileBusy (p.ask e question) (Session.checked p fs e d)).2, ?_⟩
    rw [← hwrite]
    exact perform_execute_of_question p fs e input d _ _ hcheck hquestion hsetup

/-- It comes to a good end exactly if that is a success. -/
theorem succeeds_iff_of_outcome (ho : outcome? r p fs e d = some o) :
    Succeeds r p fs e d input ↔ o.isSuccess = true := by
  unfold Succeeds
  rcases outcome?_cases ho with
    ⟨hcheck, rfl⟩ | ⟨question, hcheck, hquestion, ⟨hsetup, rfl⟩ | ⟨hsetup, rfl⟩⟩
  · simp [hcheck]
  · simp [hsetup]
  · simp [hcheck, hquestion, hsetup]

/-- Where no outcome is written, there is a session. -/
theorem outcome?_eq_none_iff :
    outcome? r p fs e d = none ↔ r.check = false ∧ r.question? = none := by
  unfold outcome?
  cases r.check <;> simp

/-- An outcome is that of a check or a question. -/
theorem recorded_of_outcome (ho : outcome? r p fs e d = some o) : Recorded r := by
  rcases outcome?_cases ho with ⟨hcheck, -⟩ | ⟨question, -, hquestion, -⟩
  · exact .inl hcheck
  · exact .inr (by rw [hquestion]; rfl)

variable (p fs e d) in
/-- They always come to one. -/
theorem exists_outcome_of_recorded (hr : Recorded r) : ∃ o, outcome? r p fs e d = some o := by
  cases ho : outcome? r p fs e d with
  | some o => exact ⟨o, rfl⟩
  | none =>
    obtain ⟨hcheck, hquestion⟩ := outcome?_eq_none_iff.mp ho
    rcases hr with hr | hr
    · rw [hcheck] at hr
      cases hr
    · rw [hquestion] at hr
      cases hr

end Execute

/-! ### Whole runs -/

section Run

variable {args h} {d : Desk σ} {problem : RunError} {r : Request} {s : Settings} {p : Pipeline}

/-- A run with a plan does it and then says how it ended. -/
theorem run_of_plan (hplan : plan args h = .ok (r, s, p)) (c : Console σ) :
    run args h c = finish ((execute r p h.around.files (h.engine s) h.input).perform c).1
      ((execute r p h.around.files (h.engine s) h.input).perform c).2 := by
  unfold run
  rw [perform_body, hplan]

/-- A run without a plan only says what kept it from having one. -/
theorem run_of_no_plan (hplan : plan args h = .error problem) (c : Console σ) :
    run args h c = finish (.error problem) c := by
  unfold run
  rw [perform_body, hplan]

/-- A run that was asked for information ends well. -/
theorem run_of_informational (hplan : plan args h = .error problem)
    (hinformational : problem.isInformational = true) (c : Console σ) :
    (run args h c).exit = .success := by
  rw [run_of_no_plan hplan, finish, if_pos hinformational]

/-- Another run without a plan fails, and tells why. -/
theorem run_of_mistake (hplan : plan args h = .error problem)
    (hmistake : problem.isInformational = false) :
    (run args h (.unlimited d [] [])).exit = .failure ∧
      (run args h (.unlimited d [] [])).console.err.stored
        = Utf8.encode (problem.message ++ "\n") := by
  rw [run_of_no_plan hplan, finish, if_neg (by simp [hmistake])]
  exact ⟨rfl, List.nil_append _⟩

/-- A run with an outcome ends as that says, and the outcome is all that it writes. -/
theorem run_ends_of_outcome {o : Outcome} (hplan : plan args h = .ok (r, s, p))
    (ho : outcome? r p h.around.files (h.engine s) d = some o) :
    (run args h (.unlimited d [] [])).exit = o.exitStatus ∧
      (run args h (.unlimited d [] [])).console.out.stored = Utf8.encode (o.outText r.format) ∧
      (run args h (.unlimited d [] [])).console.err.stored = Utf8.encode (o.errText r.format) := by
  obtain ⟨desk, hperform⟩ := perform_execute_of_outcome h.input ho
  rw [run_of_plan hplan, hperform]
  exact ⟨rfl, rfl, rfl⟩

/-- A session ends well if it succeeds; otherwise it fails, and tells why. -/
theorem run_ends_of_session (hplan : plan args h = .ok (r, s, p)) (hcheck : r.check = false)
    (hquestion : r.question? = none) :
    (Succeeds r p h.around.files (h.engine s) d h.input ∧
        (run args h (.unlimited d [] [])).exit = .success) ∨
      (¬ Succeeds r p h.around.files (h.engine s) d h.input ∧
        (run args h (.unlimited d [] [])).exit = .failure ∧
        ∃ text, Text.hasInk text = true ∧
          (run args h (.unlimited d [] [])).console.err.stored = Utf8.encode text) := by
  have hsucceeds : Succeeds r p h.around.files (h.engine s) d h.input ↔
      (p.checkSetup h.around.files (h.engine s) d.busy).1.isSuccess = true ∧
        ¬ Session.MeetsUnreadable p (h.engine s)
          (Session.opened p h.around.files (h.engine s) d) h.input := by
    simp [Succeeds, hcheck, hquestion]
  have hexecute : execute r p h.around.files (h.engine s) h.input
      = Session.run p h.around.files (h.engine s) h.input := by
    rw [execute, hcheck, hquestion]
    rfl
  rw [run_of_plan hplan, hexecute, hsucceeds]
  -- A good setup leads to the lines, and these to an end that is due; a bad one is reported.
  rcases Session.run_ends p (h.engine s) h.around.files d h.input with
    ⟨result, hsetup, hdue, desk, said, warned, hends⟩ | ⟨hsetup, hends⟩
  · have hperform := hends [] []
    rw [List.nil_append, List.nil_append] at hperform
    rw [hperform]
    rcases hdue with ⟨cause, hmeets, rfl⟩ | ⟨hnot, rfl⟩
    · refine .inr ⟨fun hboth => hboth.2 ⟨cause, hmeets⟩, rfl, ?_⟩
      refine ⟨warned ++ ((RunError.readInput cause).message ++ "\n"), ?_, ?_⟩
      · rw [Text.hasInk_append, Text.hasInk_append, RunError.hasInk_message]
        simp
      · rw [Utf8.encode_append]
        rfl
    · exact .inl ⟨⟨hsetup, hnot⟩, rfl⟩
  · rw [hends]
    refine .inr ⟨fun hboth => ?_, rfl, _, Session.hasInk_setupReport _, rfl⟩
    rw [hsetup] at hboth
    cases hboth.1

/-! ### Exit status and streams -/

variable (args h d) in
/-- A run is to end well: it is asked for information, or it has a plan and succeeds. -/
def EndsWell : Prop :=
  Request.parse (Arguments.commandArguments args) = .error .help ∨
    Request.parse (Arguments.commandArguments args) = .error .version ∨
    ∃ r s p, plan args h = .ok (r, s, p) ∧
      Succeeds r p h.around.files (h.engine s) d h.input

variable (args h d) in
/-- A run has written a text that is not blank: on stderr, or as a record on stdout. -/
def Tells : Prop :=
  ∃ text, Text.hasInk text = true ∧
    ((run args h (.unlimited d [] [])).console.err.stored = Utf8.encode text ∨
      (run args h (.unlimited d [] [])).console.out.stored = Utf8.encode text ∧
        ∃ r s p, plan args h = .ok (r, s, p) ∧ Recorded r ∧ r.format = .json)

/-- A run with a plan is to end well if the plan succeeds. -/
theorem endsWell_iff_of_plan (hplan : plan args h = .ok (r, s, p)) :
    EndsWell args h d ↔ Succeeds r p h.around.files (h.engine s) d h.input := by
  constructor
  · rintro (hhelp | hversion | ⟨r', s', p', hplan', hsucceeds⟩)
    · rw [plan_of_refused hhelp] at hplan
      cases hplan
    · rw [plan_of_refused hversion] at hplan
      cases hplan
    · rw [hplan] at hplan'
      cases hplan'
      exact hsucceeds
  · intro hsucceeds
    exact .inr (.inr ⟨r, s, p, hplan, hsucceeds⟩)

/-- A run without a plan is to end well if it was asked for information. -/
theorem endsWell_iff_of_no_plan (hplan : plan args h = .error problem) :
    EndsWell args h d ↔ problem.isInformational = true := by
  constructor
  · rintro (hhelp | hversion | ⟨r, s, p, hplan', -⟩)
    · rw [plan_of_refused hhelp] at hplan
      cases hplan
      rfl
    · rw [plan_of_refused hversion] at hplan
      cases hplan
      rfl
    · rw [hplan] at hplan'
      cases hplan'
  · intro hinformational
    rcases parse_of_informational hplan hinformational with hhelp | hversion
    · exact .inl hhelp
    · exact .inr (.inl hversion)

/-- **A run that is to end well does, and another one fails and tells why.** -/
theorem run_ends (args : List Bytes) (h : Host σ) (d : Desk σ) :
    (EndsWell args h d ∧ (run args h (.unlimited d [] [])).exit = .success) ∨
      (¬ EndsWell args h d ∧ (run args h (.unlimited d [] [])).exit = .failure ∧
        Tells args h d) := by
  -- What a run comes to is told by its plan: none, one with an outcome, or a session.
  cases hplan : plan args h with
  | error problem =>
    rw [endsWell_iff_of_no_plan hplan]
    cases hinformational : problem.isInformational with
    | true => exact .inl ⟨rfl, run_of_informational hplan hinformational _⟩
    | false =>
      obtain ⟨hexit, herr⟩ := run_of_mistake (d := d) hplan hinformational
      have hink := Text.hasInk_append_of_left problem.hasInk_message "\n"
      exact .inr ⟨by decide, hexit, _, hink, .inl herr⟩
  | ok planned =>
    obtain ⟨r, s, p⟩ := planned
    rw [endsWell_iff_of_plan hplan]
    cases ho : outcome? r p h.around.files (h.engine s) d with
    | some o =>
      obtain ⟨hexit, hout, herr⟩ := run_ends_of_outcome hplan ho
      rw [succeeds_iff_of_outcome h.input ho, hexit, Outcome.exitStatus]
      cases hsuccess : o.isSuccess with
      | true => exact .inl ⟨rfl, rfl⟩
      | false =>
        refine .inr ⟨by decide, rfl, ?_⟩
        cases hformat : r.format with
        | human =>
          rw [hformat] at herr
          exact ⟨_, Outcome.hasInk_of_failure hsuccess, .inl herr⟩
        | json =>
          rw [hformat] at hout
          have hink := Text.hasInk_append_of_left o.hasInk_record "\n"
          exact ⟨_, hink, .inr ⟨hout, r, s, p, hplan, recorded_of_outcome ho, hformat⟩⟩
    | none =>
      obtain ⟨hcheck, hquestion⟩ := outcome?_eq_none_iff.mp ho
      rcases run_ends_of_session hplan hcheck hquestion with hends | ⟨hnot, hexit, text, hink, herr⟩
      · exact .inl hends
      · exact .inr ⟨hnot, hexit, text, hink, .inl herr⟩

end Run

/-- **The exit status tells the truth, and no failure is silent.** With streams that take
    everything, whatever is found outside:
    * a run ends well exactly if it was asked for information or succeeds;
    * a check and a question write one outcome, as one record on stdout, or as a text on stdout or
      on stderr;
    * a run that fails has written a text that is not blank, on stderr or as a record on stdout. -/
theorem run_truthful (args : List Bytes) (h : Host σ) (d : Desk σ) :
    let run := run args h (.unlimited d [] [])
    (run.exit = .success ↔
      Request.parse (Arguments.commandArguments args) = .error .help ∨
      Request.parse (Arguments.commandArguments args) = .error .version ∨
      ∃ r s p, plan args h = .ok (r, s, p) ∧
        Succeeds r p h.around.files (h.engine s) d h.input) ∧
    (∀ r s p, plan args h = .ok (r, s, p) → Recorded r →
      ∃ o, outcome? r p h.around.files (h.engine s) d = some o ∧
        match r.format with
        | .json => run.console.out.stored = Utf8.encode (o.record ++ "\n") ∧
            '\n' ∉ o.record.toList ∧ run.console.err.stored = []
        | .human => (run.console.out.stored = [] ↔ run.console.err.stored ≠ []) ∧
            if o.isSuccess then run.console.out.stored = Utf8.encode (o.display ++ "\n")
            else run.console.err.stored = Utf8.encode (o.display ++ "\n")) ∧
    (run.exit = .failure → ∃ text, Text.hasInk text = true ∧
      (run.console.err.stored = Utf8.encode text ∨
        run.console.out.stored = Utf8.encode text ∧ ∃ r s p, plan args h = .ok (r, s, p) ∧
          Recorded r ∧ r.format = .json)) := by
  intro run
  refine ⟨?_, fun r s p hplan hrecorded => ?_, ?_⟩
  · show run.exit = .success ↔ EndsWell args h d
    rcases run_ends args h d with ⟨hwell, hexit⟩ | ⟨hnot, hexit, -⟩
    · exact iff_of_true hexit hwell
    · rw [show run.exit = .failure from hexit]
      exact iff_of_false (by decide) hnot
  · obtain ⟨o, ho⟩ := exists_outcome_of_recorded p h.around.files (h.engine s) d hrecorded
    obtain ⟨-, hout, herr⟩ := run_ends_of_outcome hplan ho
    refine ⟨o, ho, ?_⟩
    cases hformat : r.format with
    | json =>
      rw [hformat] at hout herr
      exact ⟨hout, o.lineFeed_not_mem_record, herr.trans Utf8.encode_empty⟩
    | human =>
      rw [hformat] at hout herr
      -- Plain text goes to one of the streams, by the kind of the outcome.
      dsimp only [run]
      rw [hout, herr]
      exact ⟨o.plainOut_eq_nil_iff, o.plain_eq_display⟩
  · intro hfailure
    rcases run_ends args h d with ⟨-, hexit⟩ | ⟨-, -, htells⟩
    · rw [show run.exit = .success from hexit] at hfailure
      cases hfailure
    · exact htells

end ZoneAccess.Program

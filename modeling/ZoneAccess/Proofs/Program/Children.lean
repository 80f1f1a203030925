import ZoneAccess.Proofs.Child.Engine
import ZoneAccess.Proofs.Program.ExitStatus
import ZoneAccess.Proofs.Program.SetupGate

namespace ZoneAccess

/-!
# The child processes of a run

What every invocation keeps holds at the end of a run, however the run goes. So a run whose engine
is run as child processes leaves none of them behind.

* `Engine.Keeps` — an invocation keeps something about the state of the engine and the record of
  invocations; then so does a series of them (`Engine.Keeps.after`), and all work at a desk
  (`Desk.Worked.keeps`);
* `Act.Keeps` — an act keeps it: one that leaves the desk alone, one after another, a session
  (`Session.keeps_run`), and all that can be asked for (`Program.keeps_execute`);
* `Program.run_children` — the invocations of a run are the runs of its children, each within the
  limits of the settings, and none that came back has left anything.
-/

variable {σ α β : Type} {P : σ → List Invocation → Prop} {e : Engine σ}

/-! ### Engines -/

/-- Every invocation of the engine keeps `P`, which is about its state and the invocations that are
    on record. -/
def Engine.Keeps (e : Engine σ) (P : σ → List Invocation → Prop) : Prop :=
  ∀ i raised s made, P s made → P (e.launch i raised s).2 (made ++ [i])

/-- So does a series of invocations. -/
theorem Engine.Keeps.after (h : e.Keeps P) (is : List Invocation) (raised : Bool) {s : σ}
    {made : List Invocation} (hs : P s made) : P (e.after is raised s) (made ++ is) := by
  -- The invocations that are on record grow at each step.
  induction is generalizing raised s made with
  | nil =>
    rw [e.after_nil, List.append_nil]
    exact hs
  | cons i is ih =>
    rw [e.after_cons, ← List.singleton_append, ← List.append_assoc]
    exact ih _ (h i raised s made hs)

/-- What `P` says of a desk. -/
def Desk.Has (P : σ → List Invocation → Prop) (d : Desk σ) : Prop := P d.engine d.invocations

/-- Work at a desk keeps what every invocation keeps. -/
theorem Desk.Worked.keeps {d d' : Desk σ} {made : List Invocation}
    (hworked : Desk.Worked e made d d') (h : e.Keeps P) (hd : d.Has P) : d'.Has P := by
  rw [Desk.Has, hworked.engine, hworked.invocations]
  exact h.after made _ hd

/-! ### Acts -/

/-- An act keeps `P`, whatever console it is done at. -/
def Act.Keeps (x : Act σ α) (P : σ → List Invocation → Prop) : Prop :=
  ∀ c, c.desk.Has P → (x.perform c).2.desk.Has P

namespace Act

/-- An act that leaves the desk alone keeps everything. -/
theorem KeepsDesk.keeps {x : Act σ α} (hx : x.KeepsDesk) : x.Keeps P := by
  intro c hc
  rw [hx c]
  exact hc

/-- Acts that keep it do so one after another, whichever of them is the last. -/
theorem Keeps.bind {x : Act σ α} {f : α → Act σ β} (hx : x.Keeps P) (hf : ∀ a, (f a).Keeps P) :
    (x >>= f).Keeps P := by
  intro c hc
  have hfirst := hx c hc
  rw [perform_bind]
  cases h : x.perform c with
  | mk result c' =>
    rw [h] at hfirst
    cases result with
    | ok a => exact hf a c' hfirst
    | error problem => exact hfirst

/-- Work at the desk keeps it if the desk does. -/
theorem keeps_atDesk {work : Desk σ → α × Desk σ} (hwork : ∀ d, d.Has P → (work d).2.Has P) :
    (atDesk work).Keeps P := fun c hc => hwork c.desk hc

/-- What is only done to the interrupts keeps it. -/
theorem keeps_interrupts : (interrupts : Act σ Interrupts).Keeps P := keeps_atDesk fun _ hd => hd

end Act

/-! ### The pipeline -/

namespace Pipeline

variable (p : Pipeline) (fs : FileSystem)

/-- A setup check keeps what every invocation keeps. -/
theorem keeps_checkSetup (h : e.Keeps P) :
    (Act.whileBusy (p.checkSetup fs e)).Keeps P := by
  refine Act.keeps_atDesk fun d hd => ?_
  obtain ⟨made, -, hworked, -⟩ := Session.checked_worked p e fs d
  exact hworked.keeps h hd

/-- So does a question, whether it is sent or not. -/
theorem keeps_ask (h : e.Keeps P) (question : String) :
    (Act.whileBusy (p.ask e question)).Keeps P := by
  refine Act.keeps_atDesk fun d hd => ?_
  cases hquestion : p.questionInvocation? question with
  | none =>
    unfold Desk.whileBusy
    rw [p.ask_of_none e _ hquestion]
    exact hd
  | some i => exact (p.whileBusy_ask_of_some e d hquestion).2.keeps h hd

end Pipeline

/-! ### Sessions -/

namespace Session

variable (p : Pipeline)

/-- A look at the interrupts decides between acts that keep it. -/
theorem ifRaised_keeps {ended next : Act σ ExitStatus} (hended : ended.Keeps P)
    (hnext : next.Keeps P) :
    (do if (← Act.interrupts).raised then ended else next : Act σ ExitStatus).Keeps P := by
  refine Act.keeps_interrupts.bind fun i => ?_
  by_cases hraised : i.raised = true
  · rw [if_pos hraised]
    exact hended
  · rw [if_neg hraised]
    exact hnext

/-- Whatever a text behind the prompt comes to keeps it, if the rest of the session does. -/
theorem keeps_answerText (h : e.Keeps P) (text : String) {rest : List Arrival}
    (hrest : (answerLines p e rest).Keeps P) : (answerText p e text rest).Keeps P := by
  rw [answerText]
  -- In the order in which a session tells its lines apart.
  by_cases hblank : Text.trim text = ""
  · rw [if_pos hblank]
    exact hrest
  · rw [if_neg hblank]
    by_cases hexit : isExitLine text = true
    · rw [if_pos hexit]
      exact keepsDesk_finish.keeps
    · rw [if_neg hexit]
      by_cases htokens : Question.tokens text = []
      · rw [if_pos htokens]
        exact (Act.keepsDesk_say _).keeps.bind fun _ => hrest
      · rw [if_neg htokens]
        refine (p.keeps_ask h text).bind fun o => ?_
        exact ifRaised_keeps keepsDesk_finishOnNewLine.keeps
          ((keepsDesk_report o).keeps.bind fun _ => hrest)

/-- **From its first prompt on a session keeps what every invocation keeps.** -/
theorem keeps_answerLines (h : e.Keeps P) (input : List Arrival) :
    (answerLines p e input).Keeps P := by
  have hprompt {next : Act σ ExitStatus} (hnext : next.Keeps P) :
      (do Act.say prompt; next : Act σ ExitStatus).Keeps P :=
    (Act.keepsDesk_say prompt).keeps.bind fun _ => hnext
  have hfinish : (finish : Act σ ExitStatus).Keeps P := keepsDesk_finish.keeps
  have hnewLine : (finishOnNewLine : Act σ ExitStatus).Keeps P := keepsDesk_finishOnNewLine.keeps
  induction input with
  | nil =>
    rw [answerLines]
    exact ifRaised_keeps hfinish (hprompt hnewLine)
  | cons arrival rest ih =>
    cases arrival with
    | interrupt =>
      rw [answerLines]
      -- An interrupt changes neither the engine nor the record of invocations.
      have hinterrupt : (Act.atDesk fun d : Desk σ => ((), d.interrupt)).Keeps P :=
        Act.keeps_atDesk fun _ hd => hd
      exact ifRaised_keeps hfinish (hprompt (hinterrupt.bind fun _ => hnewLine))
    | failed cause =>
      rw [answerLines]
      exact ifRaised_keeps hfinish (hprompt (Act.keepsDesk_throw _).keeps)
    | line bytes =>
      cases hline : Utf8.decode? bytes with
      | none =>
        rw [answerLines, hline]
        exact ifRaised_keeps hfinish (hprompt (Act.keepsDesk_throw _).keeps)
      | some text =>
        rw [answerLines_of_text p e rest hline]
        exact ifRaised_keeps hfinish (hprompt (keeps_answerText p h text ih))

/-- **A session keeps what every invocation keeps.** -/
theorem keeps_run (h : e.Keeps P) (fs : FileSystem) (input : List Arrival) :
    (run p fs e input).Keeps P := by
  rw [run]
  refine (Act.keepsDesk_say _).keeps.bind fun _ => (p.keeps_checkSetup fs h).bind fun setup => ?_
  have hfailure (m : String) :
      (do
        Act.warn ("Setup error: " ++ m ++ "\n")
        Act.warn (setupHint ++ "\n")
        return .failure : Act σ ExitStatus).Keeps P :=
    ((Act.keepsDesk_warn _).bind fun _ => (Act.keepsDesk_warn _).bind fun _ =>
      Act.keepsDesk_pure _).keeps
  cases setup with
  | success summary =>
    have henter : (Act.atDesk fun d : Desk σ =>
        ((), { d with interrupts := d.interrupts.enterSession })).Keeps P :=
      Act.keeps_atDesk fun _ hd => hd
    refine (Act.keepsDesk_say _).keeps.bind fun _ => henter.bind fun _ => ?_
    exact keeps_answerLines p h input
  | setupError m => exact hfailure m
  | runtimeError m => exact hfailure m

end Session

/-! ### Whole runs -/

namespace Program

/-- **All that can be asked for keeps what every invocation keeps.** -/
theorem keeps_execute (h : e.Keeps P) (r : Request) (p : Pipeline) (fs : FileSystem)
    (input : List Session.Arrival) : (execute r p fs e input).Keeps P := by
  have hwrite (o : Outcome) (exit : ExitStatus) :
      (do o.write r.format; return exit : Act σ ExitStatus).Keeps P :=
    ((keepsDesk_write o r.format).bind fun _ => Act.keepsDesk_pure exit).keeps
  rw [execute]
  by_cases hcheck : r.check = true
  · rw [if_pos hcheck]
    exact (p.keeps_checkSetup fs h).bind fun setup => hwrite setup _
  · rw [if_neg hcheck]
    cases r.question? with
    | none => exact Session.keeps_run p h fs input
    | some question =>
      refine (p.keeps_checkSetup fs h).bind fun setup => ?_
      by_cases hsetup : setup.isSuccess = true
      · rw [if_pos hsetup]
        exact (p.keeps_ask h question).bind fun answer => hwrite answer _
      · rw [if_neg hsetup]
        exact hwrite setup _

open Child in
/-- What the supervisor of a run has on record: the runs are those of the invocations, each of them
    within limits. -/
def Supervised (l : Limits) (v : Supervisor σ) (made : List Invocation) : Prop :=
  v.runs.map (·.invocation) = made ∧
    ∀ r ∈ v.runs, ∃ answers, r.outcome = Child.run r.invocation.program l answers

open Child in
/-- Every invocation keeps the record right. -/
theorem keeps_supervised (s : System σ) (l : Limits) : (s.engine l).Keeps (Supervised l) := by
  rintro i raised v made ⟨hmade, hruns⟩
  refine ⟨?_, ?_⟩
  · show (v.runs ++ [s.runOf l i raised v.system]).map (·.invocation) = made ++ [i]
    rw [List.map_append, hmade]
    rfl
  · intro r hr
    rcases List.mem_append.mp hr with hr | hr
    · exact hruns r hr
    · rw [List.mem_singleton.mp hr]
      exact ⟨_, rfl⟩

open Child in
/-- **The child processes of a run of the program.** Whatever the system does, on any streams:
    * the invocations of the run are, in order, the runs of its children;
    * each of them is a run within the limits of the settings, which were loaded;
    * none that came back has left its child, or anything in the group of it, behind. -/
theorem run_children (s : System σ) (around : Surroundings) (input : List Session.Arrival)
    (logs : Bool) (args : List Bytes) (state : σ) (out err : Sink) :
    let h := Host.ofSystem s around input logs
    let d := (run args h ⟨.fresh (.fresh state), out, err⟩).console.desk
    d.engine.runs.map (·.invocation) = d.invocations ∧
      ∀ r ∈ d.engine.runs, (∃ request settings p answers,
          plan args h = .ok (request, settings, p) ∧
          r.outcome = Child.run r.invocation.program (.ofSettings settings) answers) ∧
        ∀ done, r.outcome = some done → done.LeavesNothing := by
  intro h d
  have hdesk : d = ((body args h).perform ⟨.fresh (.fresh state), out, err⟩).2.desk :=
    run_desk args h _
  rw [perform_body] at hdesk
  cases hplan : plan args h with
  | error problem =>
    -- Without a plan nothing is run.
    rw [hplan] at hdesk
    rw [hdesk]
    exact ⟨rfl, nofun⟩
  | ok planned =>
    obtain ⟨request, settings, p⟩ := planned
    rw [hplan] at hdesk
    have hkeeps := keeps_execute (keeps_supervised s (.ofSettings settings)) request p
      h.around.files h.input
    have hfresh : Supervised (.ofSettings settings) (Supervisor.fresh state) [] := ⟨rfl, nofun⟩
    obtain ⟨hmade, hruns⟩ := hkeeps ⟨.fresh (.fresh state), out, err⟩ hfresh
    rw [hdesk]
    refine ⟨hmade, fun r hr => ?_⟩
    obtain ⟨answers, houtcome⟩ := hruns r hr
    refine ⟨⟨request, settings, p, answers, rfl, houtcome⟩, fun done hdone => ?_⟩
    exact run_leavesNothing (houtcome.symm.trans hdone)

end Program

end ZoneAccess

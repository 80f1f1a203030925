import ZoneAccess.Proofs.Pipeline.Outcomes
import ZoneAccess.Proofs.Program.Modes

namespace ZoneAccess

/-!
# One question, asked in two ways

A question on the command line, and the same question as the only line of a session.

* `Session.course_of_question` — the course of a session with one line that is a question;
* `Session.perform_run_of_question` — what such a session writes;
* `Program.perform_execute_of_answer` — what a question on the command line writes;
* `Program.execute_agrees_with_session` — both invoke the same, and report the same.
-/

variable {σ : Type}

/-! ### A session with one question -/

namespace Session

/-- A text without a line feed is one line of input. -/
theorem linesOf_line {text : String} (h : '\n' ∉ text.toList) :
    linesOf (Utf8.encode (text ++ "\n")) = [Utf8.encode (text ++ "\n")].map .line := by
  have hbytes : ∀ b ∈ Utf8.encode text, (b == 10) = false := by
    intro b hb
    rw [beq_eq_false_iff_ne]
    rintro rfl
    exact h (Utf8.lineFeed_mem_encode hb)
  have hfeed : Utf8.encode "\n" = [10] := rfl
  rw [linesOf, Utf8.encode_append, hfeed, cutAfter_append_singleton rfl hbytes]

variable (p : Pipeline) (e : Engine σ) {question : String} {i : Invocation} {d : Desk σ}

/-- The line feed behind a question makes no difference to it. -/
theorem ask_line : p.ask e (question ++ "\n") = p.ask e question := by
  funext d
  rw [← p.ask_trim e d (question ++ "\n"), Text.trim_append_lineFeed, p.ask_trim]

/-- A session with one question answers it, and is over with the input. -/
theorem course_of_question (hexit : isExitLine question = false)
    (hquestion : p.questionInvocation? question = some i)
    (hraised : (Desk.whileBusy (p.ask e question) d).2.interrupts.raised = false) :
    course p e [Utf8.encode (question ++ "\n")] d
      = ⟨[.answered (Desk.whileBusy (p.ask e question) d).1], .inputOver,
          (Desk.whileBusy (p.ask e question) d).2⟩ := by
  -- The line feed that ends the line is a blank, and makes no difference to what it is.
  have hline : isExitLine (question ++ "\n") = false := by
    rw [isExitLine, Text.trim_append_lineFeed, ← isExitLine, hexit]
  have hsent : p.questionInvocation? (question ++ "\n") = some i := by
    rw [← p.questionInvocation?_trim, Text.trim_append_lineFeed, p.questionInvocation?_trim,
      hquestion]
  rw [← ask_line p e] at hraised ⊢
  rw [course_of_answered p e [] d (Utf8.decode?_encode _) hline hsent hraised]
  rfl

/-- What a session writes to stdout whose only line has this answer. -/
def dialogue (summary answer : String) : String :=
  greeting summary ++ (prompt ++ answer) ++ (prompt ++ "\n" ++ farewell ++ "\n")

variable (fs : FileSystem)

/-- With a quiet engine, no interrupt is raised by the question, nor before it. -/
theorem quiet_question (hquestion : p.questionInvocation? question = some i)
    (hsetup : (p.checkSetup fs e d.busy).1.isSuccess = true)
    (hraised : d.interrupts.raised = false) (hquiet : e.Quiet d.engine) :
    (opened p fs e d).interrupts.raised = false ∧
      (Desk.whileBusy (p.ask e question) (opened p fs e d)).2.interrupts.raised = false := by
  have hopened := opened_worked p e fs hsetup
  have hasked := (p.whileBusy_ask_of_some e (opened p fs e d) hquestion).2
  exact ⟨by rw [hopened.raised, hquiet.raisedBehind hraised],
    by rw [(hopened.trans hasked).raised, hquiet.raisedBehind hraised]⟩

/-- At the first prompt the question comes to the same as right behind the setup check. -/
theorem whileBusy_ask_opened (hquestion : p.questionInvocation? question = some i)
    (d : Desk σ) :
    (Desk.whileBusy (p.ask e question) (opened p fs e d)).1
        = (Desk.whileBusy (p.ask e question) (checked p fs e d)).1 ∧
      (Desk.whileBusy (p.ask e question) (opened p fs e d)).2.invocations
        = (Desk.whileBusy (p.ask e question) (checked p fs e d)).2.invocations := by
  obtain ⟨hopened, hopened'⟩ := p.whileBusy_ask_of_some e (opened p fs e d) hquestion
  obtain ⟨hchecked, hchecked'⟩ := p.whileBusy_ask_of_some e (checked p fs e d) hquestion
  rw [hopened, hchecked, hopened'.invocations, hchecked'.invocations]
  exact ⟨rfl, rfl⟩

/-- What a session with one question comes to: what is asked behind the setup check. -/
theorem perform_run_of_question {summary : String} (hline : '\n' ∉ question.toList)
    (hexit : isExitLine question = false) (hquestion : p.questionInvocation? question = some i)
    (hsetup : (p.checkSetup fs e d.busy).1 = .success summary)
    (hraised : d.interrupts.raised = false) (hquiet : e.Quiet d.engine) :
    let asked := Desk.whileBusy (p.ask e question) (checked p fs e d)
    ∃ desk, desk.invocations = asked.2.invocations ∧
      (run p fs e (linesOf (Utf8.encode (question ++ "\n")))).perform (.unlimited d [] [])
        = (.ok .success, .unlimited desk
            (Utf8.encode (dialogue summary (Block.answered asked.1).out))
            (Utf8.encode (Block.answered asked.1).err)) := by
  intro asked
  obtain ⟨hopened, hasked⟩ :=
    quiet_question p e fs hquestion (by rw [hsetup]; rfl) hraised hquiet
  obtain ⟨houtcome, hinvocations⟩ := whileBusy_ask_opened p e fs hquestion d
  refine ⟨_, hinvocations, ?_⟩
  rw [perform_run_of_success p e fs hsetup, linesOf_line hline, perform_answerLines p e hopened,
    course_of_question p e hexit hquestion hasked, houtcome]
  simp [Course.out, Course.err, Close.out, Close.result, dialogue, asked]

/-- What a session writes tells the answer. -/
theorem dialogue_inj {summary answer answer' : String} :
    dialogue summary answer = dialogue summary answer' ↔ answer = answer' := by
  rw [dialogue, dialogue, String.append_left_inj, String.append_right_inj,
    String.append_right_inj]

end Session

/-! ### A question on the command line -/

/-- What an outcome writes to stdout in plain text. -/
def Outcome.plainOut : Outcome → String
  | success answer => answer ++ "\n"
  | _ => ""

/-- What an outcome writes to stderr in plain text. -/
def Outcome.plainErr : Outcome → String
  | success _ => ""
  | setupError m => "setup error: " ++ m ++ "\n"
  | runtimeError m => "error: " ++ m ++ "\n"

/-- An outcome that is written for a human goes to one of the streams. -/
theorem Outcome.perform_write_human (o : Outcome) (d : Desk σ) (out err : Bytes) :
    (o.write .human).perform (.unlimited d out err)
      = (.ok (), .unlimited d (out ++ Utf8.encode o.plainOut)
          (err ++ Utf8.encode o.plainErr)) := by
  cases o with
  | success answer => simp [write, isSuccess, display, plainOut, plainErr]
  | setupError m => simp [write, isSuccess, display, plainOut, plainErr]
  | runtimeError m => simp [write, isSuccess, display, plainOut, plainErr]

/-- An answer is written in plain text exactly if it is what a session answers. -/
theorem Outcome.plainOut_eq_iff (o : Outcome) (answer : String) :
    o.plainOut = answer ++ "\n" ↔ (Session.Block.answered o).out = answer ++ "\n\n" := by
  cases o with
  | success m => simp [plainOut, Session.Block.out]
  | setupError m => simp [plainOut, Session.Block.out]
  | runtimeError m => simp [plainOut, Session.Block.out]

/-- A runtime error is written in plain text exactly if it is what a session warns of. -/
theorem Outcome.plainErr_eq_iff {o : Outcome} (h : o.kind ≠ .setupError) (m : String) :
    o.plainErr = "error: " ++ m ++ "\n" ↔
      (Session.Block.answered o).err = "Warning: " ++ m ++ "\n\n" := by
  cases o with
  | success m => simp [plainErr, Session.Block.err]
  | setupError m => exact absurd rfl h
  | runtimeError m => simp [plainErr, Session.Block.err]

namespace Program

/-- The words of a question with tokens are a question. -/
theorem question?_of_tokens {words : List String} {question : String} {format : OutputFormat}
    (hwords : Question.ofWords words = question) (htokens : Question.tokens question ≠ []) :
    (Request.mk false format words).question? = some question := by
  have hne : words ≠ [] := by
    rintro rfl
    exact htokens (by rw [← hwords]; rfl)
  rw [Request.question?, if_neg hne, hwords]

section Desk

variable (p : Pipeline) (fs : FileSystem) (e : Engine σ) (input : List Session.Arrival)
  (d : Desk σ) {words : List String} {question : String}
  (hquestion : (Request.mk false .human words).question? = some question)
include hquestion

/-- A question on the command line whose setup check failed. -/
theorem perform_execute_of_bad_setup {failure : Outcome} (hfailure : failure.isSuccess = false)
    (h : (p.checkSetup fs e d.busy).1 = failure) :
    (execute ⟨false, .human, words⟩ p fs e input).perform (.unlimited d [] [])
      = (.ok .failure, .unlimited (Session.checked p fs e d) (Utf8.encode failure.plainOut)
          (Utf8.encode failure.plainErr)) := by
  subst h
  rw [Console.unlimited, perform_execute_of_failure p fs e input d _ _ rfl hquestion hfailure,
    Act.perform_bind, ← Console.unlimited, Outcome.perform_write_human,
    List.nil_append, List.nil_append]
  rfl

/-- A question on the command line that is asked. -/
theorem perform_execute_of_answer (h : (p.checkSetup fs e d.busy).1.isSuccess = true) :
    let asked := Desk.whileBusy (p.ask e question) (Session.checked p fs e d)
    (execute ⟨false, .human, words⟩ p fs e input).perform (.unlimited d [] [])
      = (.ok asked.1.exitStatus, .unlimited asked.2 (Utf8.encode asked.1.plainOut)
          (Utf8.encode asked.1.plainErr)) := by
  rw [Console.unlimited, perform_execute_of_question p fs e input d _ _ rfl hquestion h,
    Act.perform_bind, ← Console.unlimited, Outcome.perform_write_human,
    List.nil_append, List.nil_append]
  rfl

end Desk

/-- **A question on the command line and in a session.** Take a question with tokens that is one
    line and not `exit`, however it is cut into words, and an engine that sends no interrupt. Asked
    on the command line, with plain text as the format, and as the only line of a session:
    * it makes the same invocations;
    * if the setup check fails, both runs fail and report the same message;
    * otherwise there is an answer or an error. The one run writes an answer exactly if the other
      writes it behind its prompt, and an error exactly if the other warns of it. -/
theorem execute_agrees_with_session (p : Pipeline) (fs : FileSystem) (e : Engine σ) (d : Desk σ)
    (words : List String) (question : String) (input : List Session.Arrival)
    (hwords : Question.ofWords words = question) (hline : '\n' ∉ question.toList)
    (hexit : Session.isExitLine question = false) (htokens : Question.tokens question ≠ [])
    (hraised : d.interrupts.raised = false) (hquiet : e.Quiet d.engine) :
    let single := (execute ⟨false, .human, words⟩ p fs e input).perform (.unlimited d [] [])
    let session := (Session.run p fs e
      (Session.linesOf (Utf8.encode (question ++ "\n")))).perform (.unlimited d [] [])
    single.2.desk.invocations = session.2.desk.invocations ∧
    match (p.checkSetup fs e d.busy).1 with
    | .success summary =>
      (∀ answer, single.2.out.stored = Utf8.encode (answer ++ "\n") ↔
        session.2.out.stored = Utf8.encode (Session.dialogue summary (answer ++ "\n\n"))) ∧
      (∀ m, single.2.err.stored = Utf8.encode ("error: " ++ m ++ "\n") ↔
        session.2.err.stored = Utf8.encode ("Warning: " ++ m ++ "\n\n")) ∧
      ((∃ answer, single.2.out.stored = Utf8.encode (answer ++ "\n") ∧ single.2.err.stored = []) ∨
        ∃ m, single.2.out.stored = [] ∧
          single.2.err.stored = Utf8.encode ("error: " ++ m ++ "\n"))
    | .setupError m =>
      single.1 = .ok .failure ∧ session.1 = .ok .failure ∧
      single.2.err.stored = Utf8.encode ("setup error: " ++ m ++ "\n") ∧
      session.2.err.stored = Utf8.encode (Session.setupReport m)
    | .runtimeError _ => False := by
  intro single session
  have hquestion : (Request.mk false .human words).question? = some question :=
    question?_of_tokens hwords htokens
  have hsent := p.questionInvocation?_of_tokens htokens
  -- A setup check has no runtime errors, so there are two cases.
  rcases p.checkSetup_cases fs e d.busy with ⟨summary, _, _, hsetup, -, -⟩ | ⟨m, hsetup, -⟩
  · obtain ⟨desk, hinvocations, hsession⟩ :=
      Session.perform_run_of_question p e fs hline hexit hsent hsetup hraised hquiet
    have hsingle := perform_execute_of_answer p fs e input d hquestion (by rw [hsetup]; rfl)
    have hasked := p.ask_cases e (Session.checked p fs e d).busy question
    rw [← Desk.whileBusy_fst] at hasked
    dsimp only at hsession hsingle
    -- All streams are those of one outcome.
    generalize (Desk.whileBusy (p.ask e question) (Session.checked p fs e d)).1 = o
      at hsession hsingle hasked
    rw [hsetup]
    simp only [single, session, hsingle, hsession, Console.unlimited, hinvocations, Utf8.encode_inj,
      Session.dialogue_inj]
    refine ⟨trivial, fun answer => o.plainOut_eq_iff answer, fun m => ?_, ?_⟩
    · refine Outcome.plainErr_eq_iff (fun hkind => ?_) m
      rcases hasked with ⟨_, _, -, -, -, rfl, -⟩ | ⟨_, rfl, -⟩
      · cases hkind
      · cases hkind
    · rcases hasked with ⟨_, r, -, -, -, rfl, -⟩ | ⟨m, rfl, -⟩
      · exact .inl ⟨Text.trim r.stdout, rfl, Utf8.encode_empty⟩
      · exact .inr ⟨m, Utf8.encode_empty, rfl⟩
  · have hsingle := perform_execute_of_bad_setup p fs e input d hquestion rfl hsetup
    have hsession := Session.perform_run_of_failure p e fs (by rw [hsetup]; rfl)
      (Session.linesOf (Utf8.encode (question ++ "\n"))) [] []
    rw [hsetup] at hsession ⊢
    rw [show single = _ from hsingle, show session = _ from hsession]
    exact ⟨rfl, rfl, rfl, rfl, rfl⟩

/-- A question in two words that has an answer. -/
theorem execute_agrees_with_session_two_words :
    let p : Pipeline := ⟨⟨"go", rfl⟩, "pl", ⟨[47, 114], [47, 103]⟩⟩
    let file : Node := .file ⟨[], false, none⟩
    let fs : FileSystem := ⟨[([[114]], file), ([[103]], file)]⟩
    let script : Script := [⟨false, .report ⟨.exited 0, "V 9\n", ""⟩⟩,
      ⟨false, .report ⟨.exited 0, "LEZ SETUP OK\n", ""⟩⟩, ⟨false, .report ⟨.exited 0, "yes\n", ""⟩⟩]
    let d := Desk.fresh script
    let single := (execute ⟨false, .human, ["May", "I?"]⟩ p fs Script.engine []).perform
      (.unlimited d [] [])
    let session := (Session.run p fs Script.engine
      (Session.linesOf (Utf8.encode ("May I?" ++ "\n")))).perform (.unlimited d [] [])
    Question.ofWords ["May", "I?"] = "May I?" ∧ '\n' ∉ "May I?".toList ∧
    Session.isExitLine "May I?" = false ∧ Question.tokens "May I?" ≠ [] ∧
    d.interrupts.raised = false ∧ Script.engine.Quiet script ∧
    single.2.desk.invocations = session.2.desk.invocations ∧
    ∀ answer, single.2.out.stored = Utf8.encode (answer ++ "\n") ↔
      session.2.out.stored = Utf8.encode
        (Session.dialogue "V 9; rule base and grammar loaded" (answer ++ "\n\n")) := by
  intro p file fs script d
  have hwords : Question.ofWords ["May", "I?"] = "May I?" := by decide +kernel
  have hline : '\n' ∉ "May I?".toList := by decide +kernel
  have hexit : Session.isExitLine "May I?" = false := by decide +kernel
  have htokens : Question.tokens "May I?" ≠ [] := by decide +kernel
  have hquiet : Script.engine.Quiet script := Script.quiet (by decide)
  obtain ⟨hinvocations, hreports⟩ := execute_agrees_with_session p fs Script.engine d
    ["May", "I?"] "May I?" [] hwords hline hexit htokens rfl hquiet
  have hsetup : (p.checkSetup fs Script.engine d.busy).1
      = .success "V 9; rule base and grammar loaded" := by
    decide +kernel
  rw [hsetup] at hreports
  exact ⟨hwords, hline, hexit, htokens, rfl, hquiet, hinvocations, hreports.1⟩

end Program

end ZoneAccess

import ZoneAccess.Session
import ZoneAccess.Proofs.Console.Performance
import ZoneAccess.Proofs.Pipeline.Launches

namespace ZoneAccess.Session

/-!
# The course of a session

What the lines of a session come to, apart from the streams that it is written to.

* `Block` — what one line adds: nothing, a notice, or the outcome of a question;
* `Close` — why a session asks for no more lines;
* `course` — the blocks of some lines, the close, and the desk at the close;
* `perform_answerLines` — with streams that take everything, the questions and answers are
  the course written out: a prompt before each block, and one before the close;
* `perform_run_of_success`, `perform_run_of_failure` — what comes before the first prompt.
-/

variable {σ : Type}

/-! ### Blocks and closes -/

/-- What a line adds to a session. -/
inductive Block
  | blank
  | noise
  | answered (o : Outcome)
  deriving DecidableEq

/-- What a block writes to stdout. -/
def Block.out : Block → String
  | blank => ""
  | noise => emptyQueryNotice ++ "\n"
  | answered (.success answer) => answer ++ "\n\n"
  | answered _ => ""

/-- What a block writes to stderr. -/
def Block.err : Block → String
  | answered (.setupError m) => "Warning: " ++ m ++ "\n\n"
  | answered (.runtimeError m) => "Warning: " ++ m ++ "\n\n"
  | _ => ""

/-- The block of a line that is no question. -/
def blockWithout (text : String) : Block := if Text.trim text = "" then .blank else .noise

/-- Why a session asks for no more lines. -/
inductive Close
  | inputOver
  | exit
  | unreadable
  | interrupted
  deriving DecidableEq

/-- What a session writes behind its last prompt. -/
def Close.out : Close → String
  | inputOver => "\n" ++ farewell ++ "\n"
  | exit => farewell ++ "\n"
  | unreadable => ""
  | interrupted => "\n" ++ farewell ++ "\n"

/-- How a session ends. -/
def Close.result : Close → Except RunError ExitStatus
  | unreadable => .error (.readInput undecodable)
  | _ => .ok .success

/-! ### Courses -/

/-- What the lines of a session come to. -/
structure Course (σ : Type) where
  blocks : List Block
  close : Close
  desk : Desk σ

namespace Course

/-- A course with a block before it. -/
def cons (b : Block) (c : Course σ) : Course σ := { c with blocks := b :: c.blocks }

/-- What a course writes to stdout: a prompt before each block, and one before the close. -/
def out (c : Course σ) : Bytes :=
  (c.blocks.flatMap fun b => Utf8.encode (prompt ++ b.out)) ++ Utf8.encode (prompt ++ c.close.out)

/-- What a course writes to stderr. -/
def err (c : Course σ) : Bytes := c.blocks.flatMap fun b => Utf8.encode b.err

/-- A block in front does not change the close. -/
@[simp] theorem close_cons (b : Block) (c : Course σ) : (c.cons b).close = c.close := rfl

/-- Nor does it change the desk at the close. -/
@[simp] theorem desk_cons (b : Block) (c : Course σ) : (c.cons b).desk = c.desk := rfl

/-- A block in front is written behind its own prompt, before the rest. -/
@[simp] theorem out_cons (b : Block) (c : Course σ) :
    (c.cons b).out = Utf8.encode prompt ++ (Utf8.encode b.out ++ c.out) := by
  simp [cons, out]

/-- What it writes to stderr comes first as well. -/
@[simp] theorem err_cons (b : Block) (c : Course σ) :
    (c.cons b).err = Utf8.encode b.err ++ c.err := by
  simp [cons, err]

end Course

/-- Whether a text, trimmed, is the command that ends a session. -/
def isExitLine (text : String) : Bool := isExit (Text.trim text).toList

/-- The course of a session that is not interrupted yet, from its first prompt on. -/
def course (p : Pipeline) (e : Engine σ) : List Bytes → Desk σ → Course σ
  | [], d => ⟨[], .inputOver, d⟩
  | line :: rest, d =>
    match Utf8.decode? line with
    | none => ⟨[], .unreadable, d⟩
    | some text =>
      if isExitLine text then ⟨[], .exit, d⟩
      else match p.questionInvocation? text with
        | none => (course p e rest d).cons (blockWithout text)
        | some _ =>
          let (outcome, d) := Desk.whileBusy (p.ask e text) d
          if d.interrupts.raised then ⟨[], .interrupted, d⟩
          else (course p e rest d).cons (.answered outcome)

section Steps

variable (p : Pipeline) (e : Engine σ) {line : Bytes} {text : String} {i : Invocation}
  (rest : List Bytes) (d : Desk σ)

/-! ### The course, line by line -/

/-- At a line that is no text the session closes. -/
theorem course_of_unreadable (hline : Utf8.decode? line = none) :
    course p e (line :: rest) d = ⟨[], .unreadable, d⟩ := by
  rw [course, hline]

/-- So it does at `exit`. -/
theorem course_of_exit (hline : Utf8.decode? line = some text) (hexit : isExitLine text = true) :
    course p e (line :: rest) d = ⟨[], .exit, d⟩ := by
  rw [course, hline]
  exact if_pos hexit

/-- A line without tokens adds a block, and the desk stays as it is. -/
theorem course_of_none (hline : Utf8.decode? line = some text) (hexit : isExitLine text = false)
    (hquestion : p.questionInvocation? text = none) :
    course p e (line :: rest) d = (course p e rest d).cons (blockWithout text) := by
  simp [course, hline, hexit, hquestion]

/-- A question during which an interrupt is raised closes the session, unanswered. -/
theorem course_of_interrupted (hline : Utf8.decode? line = some text)
    (hexit : isExitLine text = false) (hquestion : p.questionInvocation? text = some i)
    (hraised : (Desk.whileBusy (p.ask e text) d).2.interrupts.raised = true) :
    course p e (line :: rest) d
      = ⟨[], .interrupted, (Desk.whileBusy (p.ask e text) d).2⟩ := by
  simp [course, hline, hexit, hquestion, hraised]

/-- Any other question adds its answer, and the session goes on from the desk behind it. -/
theorem course_of_answered (hline : Utf8.decode? line = some text)
    (hexit : isExitLine text = false) (hquestion : p.questionInvocation? text = some i)
    (hraised : (Desk.whileBusy (p.ask e text) d).2.interrupts.raised = false) :
    course p e (line :: rest) d
      = (course p e rest (Desk.whileBusy (p.ask e text) d).2).cons
          (.answered (Desk.whileBusy (p.ask e text) d).1) := by
  simp [course, hline, hexit, hquestion, hraised]

end Steps

/-! ### Courses written out -/

/-- What a session does with a line that is text, behind the prompt: is it blank, `exit`, or
    without tokens; if it is none of these, it is asked. -/
def answerText (p : Pipeline) (e : Engine σ) (text : String) (rest : List Arrival) :
    Act σ ExitStatus := do
  if Text.trim text = "" then answerLines p e rest
  else if isExitLine text then finish
  else if Question.tokens text = [] then
    Act.say (emptyQueryNotice ++ "\n")
    answerLines p e rest
  else
    let outcome ← Act.whileBusy (p.ask e text)
    if (← Act.interrupts).raised then finishOnNewLine
    else
      report outcome
      answerLines p e rest

variable (p : Pipeline) (e : Engine σ)

/-- The text of a line counts as it is: to trim it first makes no difference to its tokens, nor
    to what is asked. -/
theorem answerLines_of_text (rest : List Arrival) {line : Bytes} {text : String}
    (hline : Utf8.decode? line = some text) :
    answerLines p e (.line line :: rest) = (do
      if (← Act.interrupts).raised then finish
      else
        Act.say prompt
        answerText p e text rest) := by
  -- A session asks the trimmed text, and the pipeline trims away the same blanks.
  have hask : p.ask e (Text.trim text) = p.ask e text := funext fun d => p.ask_trim e d text
  rw [answerLines]
  simp only [hline, hask, Question.tokens_trim]
  rfl

/-- Reporting an outcome is writing out its block. -/
theorem perform_report (o : Outcome) (d : Desk σ) (out err : Bytes) :
    (report o).perform (.unlimited d out err)
      = (.ok (), .unlimited d (out ++ Utf8.encode (Block.answered o).out)
          (err ++ Utf8.encode (Block.answered o).err)) := by
  cases o with
  | success answer => simp [report, Block.out, Block.err]
  | setupError m => simp [report, Block.out, Block.err, Outcome.message]
  | runtimeError m => simp [report, Block.out, Block.err, Outcome.message]

/-- The farewell, written out. -/
theorem perform_finish (d : Desk σ) (out err : Bytes) :
    finish.perform (.unlimited d out err)
      = (.ok .success, .unlimited d (out ++ Utf8.encode (farewell ++ "\n")) err) := rfl

/-- The bytes of a farewell on a line of its own. -/
theorem encode_farewell :
    Utf8.encode ("\n" ++ farewell ++ "\n") = Utf8.encode "\n" ++ Utf8.encode (farewell ++ "\n") := by
  rw [String.append_assoc, Utf8.encode_append]

/-- The farewell on a line of its own, written out. -/
theorem perform_finishOnNewLine (d : Desk σ) (out err : Bytes) :
    finishOnNewLine.perform (.unlimited d out err)
      = (.ok .success,
          .unlimited d (out ++ Utf8.encode ("\n" ++ farewell ++ "\n")) err) := by
  rw [encode_farewell, ← List.append_assoc]
  rfl

/-- Once an interrupt has been raised, a session asks for no line. -/
theorem perform_answerLines_of_raised {d : Desk σ} (h : d.interrupts.raised = true)
    (input : List Arrival) (out err : Bytes) :
    (answerLines p e input).perform (.unlimited d out err)
      = (.ok .success, .unlimited d (out ++ Utf8.encode (farewell ++ "\n")) err) := by
  -- The flag is looked at before the input is, so both cases are alike.
  cases input with
  | nil =>
    unfold answerLines
    rw [Act.perform_bind, Act.perform_interrupts_unlimited]
    simp only [h, if_true, perform_finish]
  | cons arrival rest =>
    unfold answerLines
    rw [Act.perform_bind, Act.perform_interrupts_unlimited]
    simp only [h, if_true, perform_finish]

/-- With a line that is text a session goes on, behind the prompt, as with its text. -/
theorem perform_answerLines_cons {d : Desk σ} (h : d.interrupts.raised = false)
    {line : Bytes} {text : String} (hline : Utf8.decode? line = some text)
    (rest : List Arrival) (out err : Bytes) :
    (answerLines p e (.line line :: rest)).perform (.unlimited d out err)
      = (answerText p e text rest).perform
          (.unlimited d (out ++ Utf8.encode prompt) err) := by
  rw [answerLines_of_text p e rest hline, Act.perform_bind, Act.perform_interrupts_unlimited]
  simp only [h, Bool.false_eq_true, if_false, Act.perform_bind, Act.perform_say_unlimited]

/-- **The questions and answers of a session are its course written out.** -/
theorem perform_answerLines {d : Desk σ} (h : d.interrupts.raised = false) (lines : List Bytes)
    (out err : Bytes) :
    (answerLines p e (lines.map .line)).perform (.unlimited d out err)
      = ((course p e lines d).close.result,
          .unlimited (course p e lines d).desk (out ++ (course p e lines d).out)
            (err ++ (course p e lines d).err)) := by
  -- The cases are those of the course, but that blank lines are apart from those of noise.
  induction lines generalizing d out err with
  | nil =>
    rw [List.map_nil, answerLines, Act.perform_bind, Act.perform_interrupts_unlimited]
    simp [h, Act.perform_bind, perform_finishOnNewLine, course, Course.out, Course.err, Close.out,
      Close.result]
  | cons line rest ih =>
    rw [List.map_cons]
    cases hline : Utf8.decode? line with
    | none =>
      rw [course_of_unreadable p e rest d hline]
      simp [answerLines, h, Act.perform_bind, hline, Course.out, Course.err, Close.out,
        Close.result]
    | some text =>
      rw [perform_answerLines_cons p e h hline, answerText]
      by_cases hblank : Text.trim text = ""
      · -- A blank line has no tokens, but it is told apart before they are looked for.
        have hnone := p.questionInvocation?_of_blank hblank
        have hexit : isExitLine text = false := by
          rw [isExitLine, hblank]
          rfl
        rw [if_pos hblank, ih h, course_of_none p e rest d hline hexit hnone]
        simp [blockWithout, hblank, Block.out, Block.err]
      · rw [if_neg hblank]
        cases hexit : isExitLine text with
        | true =>
          rw [course_of_exit p e rest d hline hexit]
          simp [perform_finish, Course.out, Course.err, Close.out, Close.result]
        | false =>
          by_cases htokens : Question.tokens text = []
          · have hnone := p.questionInvocation?_eq_none_iff.mpr htokens
            rw [course_of_none p e rest d hline hexit hnone]
            simp [htokens, Act.perform_bind, ih h, blockWithout, hblank, Block.out, Block.err]
          · -- A line that is asked: what comes behind it depends on the flag behind the answer.
            have hsome := p.questionInvocation?_of_tokens htokens
            cases hraised : (Desk.whileBusy (p.ask e text) d).2.interrupts.raised with
            | true =>
              rw [course_of_interrupted p e rest d hline hexit hsome hraised]
              simp [htokens, Act.perform_bind, hraised, perform_finishOnNewLine, Course.out,
                Course.err, Close.out, Close.result]
            | false =>
              rw [course_of_answered p e rest d hline hexit hsome hraised]
              simp [htokens, Act.perform_bind, hraised, perform_report, ih hraised]

/-! ### Before the first prompt -/

/-- What a session writes before its first prompt. -/
def greeting (summary : String) : String :=
  banner ++ "\n\n" ++ ("Engine ready: " ++ summary ++ "\n\n")

/-- What a session writes to stderr of a setup that failed. -/
def setupReport (m : String) : String := "Setup error: " ++ m ++ "\n" ++ (setupHint ++ "\n")

/-- The desk behind a setup check. -/
def checked (p : Pipeline) (fs : FileSystem) (e : Engine σ) (d : Desk σ) : Desk σ :=
  (Desk.whileBusy (p.checkSetup fs e) d).2

/-- The desk of a session at its first prompt. -/
def opened (p : Pipeline) (fs : FileSystem) (e : Engine σ) (d : Desk σ) : Desk σ :=
  { checked p fs e d with interrupts := (checked p fs e d).interrupts.enterSession }

variable (fs : FileSystem)

/-- A setup check makes its probes in order, all of them if it succeeds. -/
theorem checked_worked (d : Desk σ) :
    ∃ made, made <+: p.probes ∧ Desk.Worked e made d (checked p fs e d) ∧
      ((p.checkSetup fs e d.busy).1.isSuccess = true → made = p.probes) := by
  have hbusy : d.busy.interrupts.idle = false := rfl
  obtain ⟨made, hpart, hworked, hall⟩ := p.checkSetup_worked fs e hbusy
  exact ⟨made, hpart, hworked.whileBusy, hall⟩

/-- A session whose setup succeeded has made both probes. -/
theorem opened_worked {d : Desk σ} (h : (p.checkSetup fs e d.busy).1.isSuccess = true) :
    Desk.Worked e p.probes d (opened p fs e d) := by
  obtain ⟨made, -, hworked, hall⟩ := checked_worked p e fs d
  rw [hall h] at hworked
  exact ⟨hworked.engine, hworked.raised, hworked.invocations, hworked.actions⟩

/-- A check that succeeded has something to say. -/
theorem exists_of_isSuccess {o : Outcome} (h : o.isSuccess = true) :
    ∃ summary, o = .success summary := by
  cases o with
  | success summary => exact ⟨summary, rfl⟩
  | setupError m => cases h
  | runtimeError m => cases h

/-- A session whose setup succeeded goes on with its questions and answers. -/
theorem perform_run_of_success {d : Desk σ} {summary : String}
    (h : (p.checkSetup fs e d.busy).1 = .success summary) (input : List Arrival)
    (out err : Bytes) :
    (run p fs e input).perform (.unlimited d out err)
      = (answerLines p e input).perform
          (.unlimited (opened p fs e d) (out ++ Utf8.encode (greeting summary)) err) := by
  have hsetup : (Desk.whileBusy (p.checkSetup fs e) d).1 = .success summary := h
  -- Up to the first prompt nothing can fail, and what is written is put together.
  rw [run, Act.perform_bind, Act.perform_say_unlimited]
  simp only [Act.perform_bind, Act.perform_whileBusy_unlimited, hsetup, Act.perform_say_unlimited,
    Act.perform_atDesk_unlimited, List.append_assoc, ← Utf8.encode_append]
  rfl

/-- A session whose setup failed says so, and that is all. -/
theorem perform_run_of_failure {d : Desk σ}
    (h : (p.checkSetup fs e d.busy).1.isSuccess = false) (input : List Arrival)
    (out err : Bytes) :
    (run p fs e input).perform (.unlimited d out err)
      = (.ok .failure, .unlimited (checked p fs e d) (out ++ Utf8.encode (banner ++ "\n\n"))
          (err ++ Utf8.encode (setupReport (p.checkSetup fs e d.busy).1.message))) := by
  have hsetup : (Desk.whileBusy (p.checkSetup fs e) d).1 = (p.checkSetup fs e d.busy).1 := rfl
  rw [run, Act.perform_bind, Act.perform_say_unlimited]
  simp only [Act.perform_bind, Act.perform_whileBusy_unlimited, hsetup]
  -- A failed setup is no success; the two kinds of failure are reported alike.
  cases houtcome : (p.checkSetup fs e d.busy).1 with
  | success summary =>
    rw [houtcome] at h
    cases h
  | setupError m =>
    simp only [Act.perform_bind, Act.perform_warn_unlimited, Act.perform_pure, List.append_assoc,
      ← Utf8.encode_append]
    rfl
  | runtimeError m =>
    simp only [Act.perform_bind, Act.perform_warn_unlimited, Act.perform_pure, List.append_assoc,
      ← Utf8.encode_append]
    rfl

end ZoneAccess.Session

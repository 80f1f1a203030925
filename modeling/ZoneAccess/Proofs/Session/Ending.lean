import ZoneAccess.Proofs.Session.Lines

namespace ZoneAccess.Session

/-!
# How sessions end

A session whose setup succeeded ends well, unless it comes to a line that cannot be read.

* `Arrival.fault?` — why a line cannot be read: it is no text, or the input failed;
* `MeetsFault`, `MeetsUnreadable` — there is such a line, and neither `exit` nor an interrupt ends
  the session before it;
* `Ends` — an act ends with a result, at some desk, and all that it writes is text;
* `Due` — the result that is due: an error if there is such a line, and otherwise none;
* `answerLines_ends` — the questions and answers end with the result that is due;
* `run_ends` — so does a whole session, unless its setup is bad: then it says so and fails.
-/

variable {σ : Type}

/-- Why what arrives cannot be read as a line, if it cannot: it is no text, or the input failed. -/
def Arrival.fault? : Arrival → Option SystemError
  | line bytes => if (Utf8.decode? bytes).isNone then some undecodable else none
  | interrupt => none
  | failed cause => some cause

/-- A line that is text can be read. -/
theorem Arrival.fault?_of_text {line : Bytes} {text : String}
    (hline : Utf8.decode? line = some text) : (Arrival.line line).fault? = none := by
  rw [fault?, hline]
  rfl

/-- A session comes to a line that cannot be read, for this cause: the lines before it are text and
    not `exit`, and no interrupt is raised by the questions among them, nor before. -/
def MeetsFault (p : Pipeline) (e : Engine σ) (d : Desk σ) (input : List Arrival)
    (cause : SystemError) : Prop :=
  ∃ before arrival after, input = before.map .line ++ arrival :: after ∧
    (∀ l ∈ before, goesOn (Utf8.decode? l) = true) ∧ arrival.fault? = some cause ∧
    d.raisedBehind e (asked p before) = false

/-- A session comes to a line that cannot be read. -/
def MeetsUnreadable (p : Pipeline) (e : Engine σ) (d : Desk σ) (input : List Arrival) : Prop :=
  ∃ cause, MeetsFault p e d input cause

/-! ### Meeting a line that cannot be read -/

section Meeting

variable (p : Pipeline) (e : Engine σ) {d : Desk σ} {line : Bytes} {text : String}
  {rest : List Arrival} {arrival : Arrival} {cause cause' : SystemError}

/-- An input that is over has no such line. -/
theorem not_meetsUnreadable_nil : ¬ MeetsUnreadable p e d [] := by
  rintro ⟨cause, before, arrival, after, hinput, -⟩
  cases before <;> simp at hinput

/-- An interrupt at the prompt ends the session before it. -/
theorem not_meetsUnreadable_interrupt : ¬ MeetsUnreadable p e d (.interrupt :: rest) := by
  rintro ⟨cause, before, arrival, after, hinput, -, hfault, -⟩
  cases before with
  | nil =>
    obtain ⟨rfl, -⟩ : .interrupt = arrival ∧ rest = after := by simpa using hinput
    cases hfault
  | cons first before => simp at hinput

/-- Once an interrupt has been raised, a session comes to no line at all. -/
theorem not_meetsUnreadable_of_raised (h : d.interrupts.raised = true) (input : List Arrival) :
    ¬ MeetsUnreadable p e d input := by
  rintro ⟨cause, before, arrival, after, -, -, -, hquiet⟩
  rw [Desk.raisedBehind, h] at hquiet
  cases hquiet

/-- A session that has not been interrupted comes to its first line. -/
theorem meetsFault_of_fault (hraised : d.interrupts.raised = false)
    (hfault : arrival.fault? = some cause) : MeetsFault p e d (arrival :: rest) cause := by
  refine ⟨[], arrival, rest, rfl, ?_, hfault, ?_⟩
  · intro l hl
    cases hl
  · exact (d.raisedBehind_nil e).trans hraised

/-- If the first line cannot be read, that is the cause. -/
theorem MeetsFault.eq_of_fault (h : MeetsFault p e d (arrival :: rest) cause')
    (hfault : arrival.fault? = some cause) : cause' = cause := by
  obtain ⟨before, found, after, hinput, hgoes, hfound, -⟩ := h
  cases before with
  | nil =>
    obtain ⟨rfl, -⟩ : arrival = found ∧ rest = after := by simpa using hinput
    exact Option.some.inj (hfound.symm.trans hfault)
  | cons first before =>
    -- A line that the session goes on behind is text, and has no fault.
    obtain ⟨rfl, -⟩ : arrival = .line first ∧ rest = before.map .line ++ found :: after := by
      simpa using hinput
    have hfirst := hgoes first List.mem_cons_self
    cases hline : Utf8.decode? first with
    | none =>
      rw [hline] at hfirst
      cases hfirst
    | some text =>
      rw [Arrival.fault?_of_text hline] at hfault
      cases hfault

/-- Behind a first line that is text, it has to go on to come to another. -/
theorem meetsFault_cons_iff (hline : Utf8.decode? line = some text) :
    MeetsFault p e d (.line line :: rest) cause ↔ isExitLine text = false ∧
      ∃ before arrival after, rest = before.map .line ++ arrival :: after ∧
        (∀ l ∈ before, goesOn (Utf8.decode? l) = true) ∧ arrival.fault? = some cause ∧
        d.raisedBehind e (asked p (line :: before)) = false := by
  constructor
  · rintro ⟨before, arrival, after, hinput, hgoes, hfault, hquiet⟩
    cases before with
    | nil =>
      -- The first line is text, so it is not the one that cannot be read.
      obtain ⟨rfl, -⟩ : .line line = arrival ∧ rest = after := by simpa using hinput
      rw [Arrival.fault?_of_text hline] at hfault
      cases hfault
    | cons first before =>
      obtain ⟨rfl, hrest⟩ : line = first ∧ rest = before.map .line ++ arrival :: after := by
        simpa using hinput
      have hexit : goesOn (Utf8.decode? line) = true := hgoes line List.mem_cons_self
      rw [hline] at hexit
      refine ⟨by simpa [goesOn] using hexit, before, arrival, after, hrest, ?_, hfault, hquiet⟩
      intro l hl
      exact hgoes l (List.mem_cons_of_mem line hl)
  · rintro ⟨hexit, before, arrival, after, hrest, hgoes, hfault, hquiet⟩
    refine ⟨line :: before, arrival, after, by rw [hrest]; rfl, ?_, hfault, hquiet⟩
    intro l hl
    rcases List.mem_cons.mp hl with rfl | hl
    · rw [hline]
      simp [goesOn, hexit]
    · exact hgoes l hl

/-- A first line that is `exit` ends the session before any other. -/
theorem not_meetsUnreadable_of_exit (hline : Utf8.decode? line = some text)
    (hexit : isExitLine text = true) : ¬ MeetsUnreadable p e d (.line line :: rest) := by
  rintro ⟨cause, hmeets⟩
  rw [meetsFault_cons_iff p e hline, hexit] at hmeets
  cases hmeets.1

/-- A first line without tokens makes no difference. -/
theorem meetsFault_of_none (hline : Utf8.decode? line = some text)
    (hexit : isExitLine text = false) (hquestion : p.questionInvocation? text = none)
    (cause : SystemError) :
    MeetsFault p e d (.line line :: rest) cause ↔ MeetsFault p e d rest cause := by
  rw [meetsFault_cons_iff p e hline]
  simp only [hexit, true_and, asked_of_none _ p hline hexit hquestion]
  rfl

/-- Behind one that is asked, a session comes to what it comes to from the desk behind the
    answer. -/
theorem meetsFault_of_some {i : Invocation} (hline : Utf8.decode? line = some text)
    (hexit : isExitLine text = false) (hquestion : p.questionInvocation? text = some i)
    (cause : SystemError) :
    MeetsFault p e d (.line line :: rest) cause
      ↔ MeetsFault p e (Desk.whileBusy (p.ask e text) d).2 rest cause := by
  obtain ⟨-, hworked⟩ := p.whileBusy_ask_of_some e d hquestion
  rw [meetsFault_cons_iff p e hline]
  simp only [hexit, true_and, asked_of_some _ p hline hexit hquestion,
    hworked.raisedBehind_append]
  rfl

end Meeting

/-! ### The end -/

/-- Where streams take everything, an act ends with this result, at some desk, and what it writes
    to either stream is text. -/
def Ends (x : Act σ ExitStatus) (d : Desk σ) (result : Except RunError ExitStatus) : Prop :=
  ∃ desk said warned, ∀ out err, x.perform (.unlimited d out err)
    = (result, .unlimited desk (out ++ Utf8.encode said) (err ++ Utf8.encode warned))

namespace Ends

variable {x : Act σ ExitStatus} {d : Desk σ} {result : Except RunError ExitStatus}

/-- What is said before does not change how an act ends. -/
theorem say_bind (h : Ends x d result) (text : String) :
    Ends (do Act.say text; x) d result := by
  obtain ⟨desk, said, warned, hx⟩ := h
  refine ⟨desk, text ++ said, warned, fun out err => ?_⟩
  rw [Act.perform_bind, Act.perform_say_unlimited]
  simp only [hx, Utf8.encode_append, List.append_assoc]

/-- Nor does what is warned of. -/
theorem warn_bind (h : Ends x d result) (text : String) :
    Ends (do Act.warn text; x) d result := by
  obtain ⟨desk, said, warned, hx⟩ := h
  refine ⟨desk, said, text ++ warned, fun out err => ?_⟩
  rw [Act.perform_bind, Act.perform_warn_unlimited]
  simp only [hx, Utf8.encode_append, List.append_assoc]

/-- Nor does the report of an outcome. -/
theorem report_bind (h : Ends x d result) (o : Outcome) :
    Ends (do report o; x) d result := by
  cases o with
  | success answer => exact h.say_bind _
  | setupError m => exact h.warn_bind _
  | runtimeError m => exact h.warn_bind _

/-- Work at the desk comes first. -/
theorem atDesk_bind {α : Type} {work : Desk σ → α × Desk σ} {f : α → Act σ ExitStatus}
    (h : Ends (f (work d).1) (work d).2 result) : Ends (Act.atDesk work >>= f) d result := h

/-- A look at the interrupts changes nothing. -/
theorem unless_raised {y : Act σ ExitStatus} (hraised : d.interrupts.raised = false)
    (h : Ends x d result) :
    Ends (do if (← Act.interrupts).raised then y else x) d result := by
  refine atDesk_bind ?_
  rw [if_neg (by simp [hraised])]
  exact h

end Ends

/-- To do nothing ends with the exit status that is given. -/
theorem ends_pure (d : Desk σ) (exit : ExitStatus) :
    Ends (pure exit : Act σ ExitStatus) d (.ok exit) := by
  refine ⟨d, "", "", fun out err => ?_⟩
  simp

/-- An error is how it ends. -/
theorem ends_throw (d : Desk σ) (problem : RunError) :
    Ends (throw problem : Act σ ExitStatus) d (.error problem) := by
  refine ⟨d, "", "", fun out err => ?_⟩
  simp

/-- A farewell ends well. -/
theorem ends_finish (d : Desk σ) : Ends finish d (.ok .success) :=
  (ends_pure d .success).say_bind _

/-- So does a farewell on a line of its own. -/
theorem ends_finishOnNewLine (d : Desk σ) : Ends finishOnNewLine d (.ok .success) :=
  (ends_finish d).say_bind _

variable (p : Pipeline) (e : Engine σ)

/-- Once an interrupt has been raised, a session ends well. -/
theorem ends_of_raised {d : Desk σ} (h : d.interrupts.raised = true) (input : List Arrival) :
    Ends (answerLines p e input) d (.ok .success) := by
  refine ⟨d, farewell ++ "\n", "", fun out err => ?_⟩
  rw [perform_answerLines_of_raised p e h, Utf8.encode_empty, List.append_nil]

/-- The result that is due: an error if the session comes to a line that cannot be read, and
    otherwise a good end. -/
def Due (p : Pipeline) (e : Engine σ) (d : Desk σ) (input : List Arrival)
    (result : Except RunError ExitStatus) : Prop :=
  (∃ cause, MeetsFault p e d input cause ∧ result = .error (.readInput cause)) ∨
    ¬ MeetsUnreadable p e d input ∧ result = .ok .success

section Due

variable {d d' : Desk σ} {input rest : List Arrival} {arrival : Arrival} {cause : SystemError}
  {result : Except RunError ExitStatus}

/-- Without such a line, the good end is due. -/
theorem Due.eq_success (h : Due p e d input result)
    (hnot : ¬ MeetsUnreadable p e d input) : result = .ok .success := by
  rcases h with ⟨cause, hmeets, -⟩ | ⟨-, rfl⟩
  · exact absurd ⟨cause, hmeets⟩ hnot
  · rfl

/-- If the session comes to its first line, and that cannot be read, the error is due. -/
theorem Due.eq_error (h : Due p e d (arrival :: rest) result)
    (hraised : d.interrupts.raised = false) (hfault : arrival.fault? = some cause) :
    result = .error (.readInput cause) := by
  rcases h with ⟨met, hmeets, rfl⟩ | ⟨hnot, -⟩
  · rw [hmeets.eq_of_fault p e hfault]
  · exact absurd ⟨cause, meetsFault_of_fault p e hraised hfault⟩ hnot

/-- What is due depends only on the lines that a session comes to. -/
theorem Due.of_iff (h : Due p e d input result)
    (hiff : ∀ cause, MeetsFault p e d input cause ↔ MeetsFault p e d' rest cause) :
    Due p e d' rest result := by
  unfold Due MeetsUnreadable at h ⊢
  simpa only [hiff] using h

/-- One or the other always is. -/
theorem exists_due (d : Desk σ) (input : List Arrival) :
    ∃ result, Due p e d input result := by
  by_cases h : MeetsUnreadable p e d input
  · obtain ⟨cause, hmeets⟩ := h
    exact ⟨_, .inl ⟨cause, hmeets, rfl⟩⟩
  · exact ⟨_, .inr ⟨h, rfl⟩⟩

/-- A line that is text ends a session as it is to end, if what follows the line does. -/
theorem answerText_ends {line : Bytes} {text : String}
    (hrest : ∀ {d}, Due p e d rest result → Ends (answerLines p e rest) d result)
    (hline : Utf8.decode? line = some text) (h : Due p e d (.line line :: rest) result) :
    Ends (answerText p e text rest) d result := by
  unfold answerText
  by_cases hblank : Text.trim text = ""
  · -- A blank line is not `exit`, and makes no difference to what is due.
    have hexit : isExitLine text = false := by
      rw [isExitLine, hblank]
      rfl
    have hnone := p.questionInvocation?_of_blank hblank
    rw [if_pos hblank]
    exact hrest (h.of_iff p e (meetsFault_of_none p e hline hexit hnone))
  · rw [if_neg hblank]
    cases hexit : isExitLine text with
    | true =>
      obtain rfl := h.eq_success p e (not_meetsUnreadable_of_exit p e hline hexit)
      exact ends_finish d
    | false =>
      by_cases htokens : Question.tokens text = []
      · have hnone := p.questionInvocation?_eq_none_iff.mpr htokens
        simp only [htokens, if_true]
        refine (hrest ?_).say_bind _
        exact h.of_iff p e (meetsFault_of_none p e hline hexit hnone)
      · -- What is due behind a question is due from the desk that the answer leaves.
        have hsome := p.questionInvocation?_of_tokens htokens
        have hdue := h.of_iff p e (meetsFault_of_some p e hline hexit hsome)
        simp only [htokens, if_false]
        refine Ends.atDesk_bind ?_
        cases hraised : (Desk.whileBusy (p.ask e text) d).2.interrupts.raised with
        | true =>
          obtain rfl := hdue.eq_success p e (not_meetsUnreadable_of_raised p e hraised rest)
          refine Ends.atDesk_bind ?_
          rw [if_pos hraised]
          exact ends_finishOnNewLine _
        | false => exact Ends.unless_raised hraised ((hrest hdue).report_bind _)

end Due

/-- **A session ends with an error if it comes to a line that cannot be read, and well
    otherwise.** -/
theorem answerLines_ends (input : List Arrival) {d : Desk σ}
    {result : Except RunError ExitStatus} (h : Due p e d input result) :
    Ends (answerLines p e input) d result := by
  -- The desk is generalized: the rest of the lines meets the one that the first line leaves.
  induction input generalizing d with
  | nil =>
    obtain rfl := h.eq_success p e (not_meetsUnreadable_nil p e)
    cases hraised : d.interrupts.raised with
    | true => exact ends_of_raised p e hraised []
    | false =>
      unfold answerLines
      exact Ends.unless_raised hraised ((ends_finishOnNewLine d).say_bind prompt)
  | cons arrival rest ih =>
    cases hraised : d.interrupts.raised with
    | true =>
      obtain rfl := h.eq_success p e (not_meetsUnreadable_of_raised p e hraised _)
      exact ends_of_raised p e hraised _
    | false =>
      cases arrival with
      | interrupt =>
        obtain rfl := h.eq_success p e (not_meetsUnreadable_interrupt p e)
        unfold answerLines
        refine Ends.unless_raised hraised (Ends.say_bind ?_ prompt)
        exact Ends.atDesk_bind (ends_finishOnNewLine _)
      | failed cause =>
        have hfault : (Arrival.failed cause).fault? = some cause := rfl
        obtain rfl := h.eq_error p e hraised hfault
        unfold answerLines
        exact Ends.unless_raised hraised ((ends_throw d _).say_bind prompt)
      | line bytes =>
        cases hline : Utf8.decode? bytes with
        | none =>
          have hfault : (Arrival.line bytes).fault? = some undecodable := by
            rw [Arrival.fault?, hline]
            rfl
          obtain rfl := h.eq_error p e hraised hfault
          unfold answerLines
          refine Ends.unless_raised hraised (Ends.say_bind ?_ prompt)
          simp only [hline]
          exact ends_throw d _
        | some text =>
          rw [answerLines_of_text p e rest hline]
          refine Ends.unless_raised hraised (Ends.say_bind ?_ prompt)
          exact answerText_ends p e ih hline h

/-! ### Whole sessions -/

variable (fs : FileSystem)

/-- **How a session ends.** If its setup is bad it says so and fails; otherwise it ends as its
    questions and answers do. -/
theorem run_ends (d : Desk σ) (input : List Arrival) :
    (∃ result, (p.checkSetup fs e d.busy).1.isSuccess = true ∧
      Due p e (opened p fs e d) input result ∧ Ends (run p fs e input) d result) ∨
    ((p.checkSetup fs e d.busy).1.isSuccess = false ∧
      (run p fs e input).perform (.unlimited d [] [])
        = (.ok .failure, .unlimited (checked p fs e d) (Utf8.encode (banner ++ "\n\n"))
            (Utf8.encode (setupReport (p.checkSetup fs e d.busy).1.message)))) := by
  cases hsetup : (p.checkSetup fs e d.busy).1.isSuccess with
  | true =>
    -- The greeting comes before the questions and answers, and changes no result.
    obtain ⟨summary, hsummary⟩ := exists_of_isSuccess hsetup
    obtain ⟨result, hdue⟩ := exists_due p e (opened p fs e d) input
    obtain ⟨desk, said, warned, hends⟩ := answerLines_ends p e input hdue
    refine .inl ⟨result, rfl, hdue, desk, greeting summary ++ said, warned, fun out err => ?_⟩
    rw [perform_run_of_success p e fs hsummary, hends, Utf8.encode_append, List.append_assoc]
  | false =>
    have hfailure := perform_run_of_failure p e fs hsetup input [] []
    rw [List.nil_append, List.nil_append] at hfailure
    exact .inr ⟨rfl, hfailure⟩

end ZoneAccess.Session

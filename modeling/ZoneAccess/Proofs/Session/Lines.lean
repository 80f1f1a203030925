import ZoneAccess.Proofs.Session.Course

namespace ZoneAccess.Session

/-!
# The lines of a session

The course of a session read off its lines as a whole.

* `handled`, `closing` — the lines up to the first that is no text or is `exit`, and why
  the session asks for no line behind them;
* `asked` — the invocations that the handled lines come to;
* `blocksOf` — the blocks of the handled lines, given the replies to their invocations;
* `course_of_quiet` — the course if no interrupt is raised;
* `InterruptedAt`, `exists_interruptedAt` — the course if one is.
-/

variable {σ : Type}

/-! ### Handled lines -/

/-- Whether a session goes on behind a line: it is text, and not `exit`. -/
def goesOn : Option String → Bool
  | none => false
  | some text => !isExitLine text

/-- The texts of the lines before the first that is no text or is `exit`. -/
def handled (lines : List Bytes) : List String :=
  ((lines.map Utf8.decode?).takeWhile goesOn).filterMap id

/-- Why a session, if nothing interrupts it, asks for no line behind the handled ones. -/
def closing (lines : List Bytes) : Close :=
  match ((lines.map Utf8.decode?).dropWhile goesOn).head? with
  | none => .inputOver
  | some none => .unreadable
  | some (some _) => .exit

/-- The invocations that the handled lines come to: one for each that has tokens. -/
def asked (p : Pipeline) (lines : List Bytes) : List Invocation :=
  (handled lines).filterMap p.questionInvocation?

/-- The blocks of handled lines, given the replies to the invocations of those with tokens. -/
def blocksOf (p : Pipeline) : List String → List Reply → List Block
  | [], _ => []
  | text :: rest, replies =>
    match p.questionInvocation? text, replies with
    | none, replies => blockWithout text :: blocksOf p rest replies
    | some _, reply :: replies =>
      .answered (Pipeline.answerFrom reply.result) :: blocksOf p rest replies
    | some _, [] => []

section Step

variable {line : Bytes} {text : String} (rest : List Bytes)

/-- Behind a first line that is no text, none is handled. -/
theorem handled_of_unreadable (hline : Utf8.decode? line = none) :
    handled (line :: rest) = [] ∧ closing (line :: rest) = .unreadable := by
  simp [handled, closing, hline, goesOn]

/-- Nor is any from `exit` on. -/
theorem handled_of_exit (hline : Utf8.decode? line = some text) (hexit : isExitLine text = true) :
    handled (line :: rest) = [] ∧ closing (line :: rest) = .exit := by
  simp [handled, closing, hline, goesOn, hexit]

/-- Any other first line is handled, and the rest as they would be alone. -/
theorem handled_of_goesOn (hline : Utf8.decode? line = some text)
    (hexit : isExitLine text = false) :
    handled (line :: rest) = text :: handled rest ∧ closing (line :: rest) = closing rest := by
  simp [handled, closing, hline, goesOn, hexit]

/-- A line without tokens comes to no invocation. -/
theorem asked_of_none (p : Pipeline) (hline : Utf8.decode? line = some text)
    (hexit : isExitLine text = false) (hquestion : p.questionInvocation? text = none) :
    asked p (line :: rest) = asked p rest := by
  rw [asked, (handled_of_goesOn rest hline hexit).1, List.filterMap_cons_none hquestion, asked]

/-- A line with tokens comes to its own invocation, before those of the rest. -/
theorem asked_of_some (p : Pipeline) {i : Invocation} (hline : Utf8.decode? line = some text)
    (hexit : isExitLine text = false) (hquestion : p.questionInvocation? text = some i) :
    asked p (line :: rest) = [i] ++ asked p rest := by
  rw [asked, (handled_of_goesOn rest hline hexit).1, List.filterMap_cons_some hquestion, asked]
  rfl

end Step

variable (p : Pipeline) (e : Engine σ)

/-- A line without tokens has its block without a reply. -/
theorem blocksOf_of_none {text : String} (h : p.questionInvocation? text = none)
    (texts : List String) (replies : List Reply) :
    blocksOf p (text :: texts) replies = blockWithout text :: blocksOf p texts replies := by
  simp [blocksOf, h]

/-- A line with tokens has the block that the next reply comes to. -/
theorem blocksOf_of_some {text : String} {i : Invocation}
    (h : p.questionInvocation? text = some i) (texts : List String) (reply : Reply)
    (replies : List Reply) :
    blocksOf p (text :: texts) (reply :: replies)
      = .answered (Pipeline.answerFrom reply.result) :: blocksOf p texts replies := by
  simp [blocksOf, h]

/-- Each handled line has its block. -/
theorem length_blocksOf (texts : List String) (replies : List Reply)
    (h : replies.length = (texts.filterMap p.questionInvocation?).length) :
    (blocksOf p texts replies).length = texts.length := by
  induction texts generalizing replies with
  | nil => rfl
  | cons text texts ih =>
    -- Only a line with tokens takes a reply.
    cases hi : p.questionInvocation? text with
    | none =>
      rw [List.filterMap_cons_none hi] at h
      rw [blocksOf_of_none p hi, List.length_cons, ih replies h, List.length_cons]
    | some i =>
      rw [List.filterMap_cons_some hi] at h
      cases replies with
      | nil => simp at h
      | cons reply replies =>
        have hrest : replies.length = (texts.filterMap p.questionInvocation?).length := by
          simpa using h
        rw [blocksOf_of_some p hi, List.length_cons, ih replies hrest, List.length_cons]

/-! ### Courses without an interrupt -/

/-- **The course of a session that is not interrupted**: its lines are handled in order, the
    engine is asked for each that has tokens, and the first line that is no text or `exit`
    closes it. -/
theorem course_of_quiet (lines : List Bytes) {d : Desk σ}
    (h : d.raisedBehind e (asked p lines) = false) :
    (course p e lines d).blocks = blocksOf p (handled lines) (d.repliesTo e (asked p lines)) ∧
      (course p e lines d).close = closing lines ∧
      Desk.Worked e (asked p lines) d (course p e lines d).desk := by
  -- The desk is generalized: the rest of the lines meets the one that the first line leaves.
  induction lines generalizing d with
  | nil => exact ⟨rfl, rfl, Desk.Worked.refl e d⟩
  | cons line rest ih =>
    cases hline : Utf8.decode? line with
    | none =>
      obtain ⟨hhandled, hclosing⟩ := handled_of_unreadable rest hline
      rw [course_of_unreadable p e rest d hline, asked, hhandled, hclosing]
      exact ⟨rfl, rfl, Desk.Worked.refl e d⟩
    | some text =>
      cases hexit : isExitLine text with
      | true =>
        obtain ⟨hhandled, hclosing⟩ := handled_of_exit rest hline hexit
        rw [course_of_exit p e rest d hline hexit, asked, hhandled, hclosing]
        exact ⟨rfl, rfl, Desk.Worked.refl e d⟩
      | false =>
        obtain ⟨hhandled, hclosing⟩ := handled_of_goesOn rest hline hexit
        rw [hhandled, hclosing]
        cases hi : p.questionInvocation? text with
        | none =>
          rw [asked_of_none rest p hline hexit hi] at h ⊢
          obtain ⟨hblocks, hclose, hworked⟩ := ih h
          rw [course_of_none p e rest d hline hexit hi, blocksOf_of_none p hi]
          exact ⟨congrArg _ hblocks, hclose, hworked⟩
        | some i =>
          -- A line that is asked: its reply is the first of those that are left.
          obtain ⟨houtcome, hfirst⟩ := p.whileBusy_ask_of_some e d hi
          rw [asked_of_some rest p hline hexit hi] at h ⊢
          rw [hfirst.raisedBehind_append] at h
          -- Raised interrupts stay raised, so none is raised behind the first line either.
          have hraised : (Desk.whileBusy (p.ask e text) d).2.interrupts.raised = false :=
            (Bool.or_eq_false_iff.mp h).1
          obtain ⟨hblocks, hclose, hworked⟩ := ih h
          have hreply : d.repliesTo e [i] = [(e.launch i d.interrupts.raised d.engine).1] := rfl
          rw [course_of_answered p e rest d hline hexit hi hraised, hfirst.repliesTo_append, hreply,
            List.singleton_append, blocksOf_of_some p hi, ← houtcome, ← hblocks]
          exact ⟨rfl, hclose, hfirst.trans hworked⟩

/-! ### Courses with an interrupt -/

/-- A session is interrupted at a line: the lines before it are handled, no interrupt is raised
    by the replies to them, and the reply to the line's invocation `i` raises one. The course
    ends there, at `desk`, whatever follows the line. -/
structure InterruptedAt (p : Pipeline) (e : Engine σ) (d : Desk σ) (before : List Bytes)
    (line : Bytes) (i : Invocation) (desk : Desk σ) : Prop where
  handled : (handled before).length = before.length
  question : (Utf8.decode? line).bind p.questionInvocation? = some i
  quiet : d.raisedBehind e (asked p before) = false
  worked : Desk.Worked e (asked p before ++ [i]) d desk
  raised : desk.interrupts.raised = true
  course : ∀ after, course p e (before ++ line :: after) d
    = ⟨blocksOf p (Session.handled before) (d.repliesTo e (asked p before)), .interrupted, desk⟩

/-- A first line without tokens does not change where a session is interrupted. -/
theorem InterruptedAt.cons_of_none {d desk : Desk σ} {before : List Bytes} {line first : Bytes}
    {text : String} {i : Invocation} (h : InterruptedAt p e d before line i desk)
    (hfirst : Utf8.decode? first = some text) (hexit : isExitLine text = false)
    (hquestion : p.questionInvocation? text = none) :
    InterruptedAt p e d (first :: before) line i desk := by
  have hhandled := (handled_of_goesOn before hfirst hexit).1
  have hasked := asked_of_none before p hfirst hexit hquestion
  refine ⟨?_, h.question, ?_, ?_, h.raised, fun after => ?_⟩
  · rw [hhandled, List.length_cons, h.handled, List.length_cons]
  · rw [hasked]
    exact h.quiet
  · rw [hasked]
    exact h.worked
  · rw [List.cons_append, course_of_none p e _ d hfirst hexit hquestion, h.course after, hhandled,
      hasked, blocksOf_of_none p hquestion]
    rfl

/-- Nor does a first line that is answered without an interrupt: the session is interrupted where
    the rest of it is, from the desk that the answer leaves. -/
theorem InterruptedAt.cons_of_some {d desk : Desk σ} {before : List Bytes} {line first : Bytes}
    {text : String} {i j : Invocation} (hfirst : Utf8.decode? first = some text)
    (hexit : isExitLine text = false) (hquestion : p.questionInvocation? text = some j)
    (hraised : (Desk.whileBusy (p.ask e text) d).2.interrupts.raised = false)
    (h : InterruptedAt p e (Desk.whileBusy (p.ask e text) d).2 before line i desk) :
    InterruptedAt p e d (first :: before) line i desk := by
  obtain ⟨houtcome, hworked⟩ := p.whileBusy_ask_of_some e d hquestion
  have hhandled := (handled_of_goesOn before hfirst hexit).1
  have hasked := asked_of_some before p hfirst hexit hquestion
  refine ⟨?_, h.question, ?_, ?_, h.raised, fun after => ?_⟩
  · rw [hhandled, List.length_cons, h.handled, List.length_cons]
  · rw [hasked, hworked.raisedBehind_append]
    exact h.quiet
  · rw [hasked, List.append_assoc]
    exact hworked.trans h.worked
  · -- The reply to the first line is that of the engine as the desk finds it.
    have hreply : d.repliesTo e [j] = [(e.launch j d.interrupts.raised d.engine).1] := rfl
    rw [List.cons_append, course_of_answered p e _ d hfirst hexit hquestion hraised,
      h.course after, hhandled, hasked, hworked.repliesTo_append, hreply, List.singleton_append,
      blocksOf_of_some p hquestion, houtcome]
    rfl

/-- **If an interrupt is raised, there is a line at which the session is interrupted.** -/
theorem exists_interruptedAt (lines : List Bytes) {d : Desk σ} (h : d.interrupts.raised = false)
    (hraised : d.raisedBehind e (asked p lines) = true) :
    ∃ before line after i desk, lines = before ++ line :: after ∧
      InterruptedAt p e d before line i desk := by
  -- It is the first line behind whose answer an interrupt is raised.
  induction lines generalizing d with
  | nil =>
    have hnone : asked p [] = [] := rfl
    rw [hnone, Desk.raisedBehind_nil, h] at hraised
    cases hraised
  | cons line rest ih =>
    have hnil : d.raisedBehind e [] = false := (d.raisedBehind_nil e).trans h
    cases hline : Utf8.decode? line with
    | none =>
      rw [asked, (handled_of_unreadable rest hline).1, List.filterMap_nil, hnil] at hraised
      cases hraised
    | some text =>
      cases hexit : isExitLine text with
      | true =>
        rw [asked, (handled_of_exit rest hline hexit).1, List.filterMap_nil, hnil] at hraised
        cases hraised
      | false =>
        cases hi : p.questionInvocation? text with
        | none =>
          rw [asked_of_none rest p hline hexit hi] at hraised
          obtain ⟨before, line', after, i, desk, hlines, hat⟩ := ih h hraised
          exact ⟨line :: before, line', after, i, desk, by rw [hlines, List.cons_append],
            hat.cons_of_none p e hline hexit hi⟩
        | some i =>
          obtain ⟨-, hworked⟩ := p.whileBusy_ask_of_some e d hi
          rw [asked_of_some rest p hline hexit hi, hworked.raisedBehind_append] at hraised
          cases hfirst : (Desk.whileBusy (p.ask e text) d).2.interrupts.raised with
          | true =>
            -- This is the line, and none comes before it.
            refine ⟨[], line, rest, i, _, rfl, rfl, ?_, hnil, hworked, hfirst, fun after => ?_⟩
            · rw [hline, Option.bind_some, hi]
            · exact course_of_interrupted p e after d hline hexit hi hfirst
          | false =>
            -- The line is among the rest, and this one comes before it.
            obtain ⟨before, line', after, j, desk, hlines, hat⟩ := ih hfirst hraised
            exact ⟨line :: before, line', after, j, desk, by rw [hlines, List.cons_append],
              .cons_of_some p e hline hexit hi hfirst hat⟩

end ZoneAccess.Session

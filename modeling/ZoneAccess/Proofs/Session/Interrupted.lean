import ZoneAccess.Proofs.Session.Lines

namespace ZoneAccess

/-!
# Sessions with interrupts

* `Interrupts.raised_performAll` — nothing that is done to the interrupts clears the flag;
* `Session.exists_run_worked` — what a session invokes: probes, then queries, and no query
  once an interrupt has been raised;
* `Session.run_of_raised_in_setup`, `Session.run_of_raised_in_query` — what a session comes
  to when the first interrupt arrives during the setup check, and during a query;
* `Session.run_interrupted` — all of it together.
-/

/-! ### The raised flag -/

namespace Interrupts

mutual

/-- A step does not clear the raised flag. -/
theorem raised_perform (step : Step) {i : Interrupts} (h : i.raised = true) :
    (perform step i).2.raised = true := by
  cases step with
  | enterSession => exact h
  | react => rfl
  | whileBusy body =>
    -- To begin and to end work is a matter of the idle flag alone.
    have hbegin : i.beginWork.raised = true := h
    exact raised_performAll body hbegin

/-- **The raised flag is never cleared**, whatever is done. -/
theorem raised_performAll (steps : List Step) {i : Interrupts} (h : i.raised = true) :
    (performAll steps i).2.raised = true := by
  cases steps with
  | nil => exact h
  | cons step steps => exact raised_performAll steps (raised_perform step h)

end

end Interrupts

namespace Session

variable {σ : Type} (p : Pipeline) (fs : FileSystem) (e : Engine σ)

/-- A session on some lines, from a desk, with streams that take everything. -/
def onLines (d : Desk σ) (out err : Bytes) (lines : List Bytes) :
    Except RunError ExitStatus × Console σ :=
  (run p fs e (lines.map .line)).perform (.unlimited d out err)

/-! ### What a session invokes -/

/-- What handled lines come to are queries. -/
theorem exists_query_of_mem_asked {lines : List Bytes} {i : Invocation} (h : i ∈ asked p lines) :
    ∃ q, i = p.queryInvocation q := by
  obtain ⟨text, -, hi⟩ := List.mem_filterMap.mp h
  obtain ⟨q, -, -, hq⟩ := p.exists_query_of_questionInvocation? hi
  exact ⟨q, hq⟩

/-- From its first prompt on a session invokes queries, and none once an interrupt has been
    raised. -/
theorem exists_course_worked (lines : List Bytes) {d : Desk σ} (h : d.interrupts.raised = false) :
    ∃ queries, (∀ i ∈ queries, ∃ q, i = p.queryInvocation q) ∧
      Desk.Worked e queries d (course p e lines d).desk ∧
      ∀ early i late, queries = early ++ i :: late → d.raisedBehind e early = false := by
  cases hraised : d.raisedBehind e (asked p lines) with
  | false =>
    obtain ⟨-, -, hworked⟩ := course_of_quiet p e lines hraised
    -- All lines that are to be asked are asked, and none of them raises the flag.
    refine ⟨asked p lines, fun i hi => exists_query_of_mem_asked p hi, hworked, ?_⟩
    intro early i late hsplit
    rw [hsplit] at hraised
    exact Desk.raisedBehind_of_append hraised
  | true =>
    obtain ⟨before, line, after, i, desk, rfl, hat⟩ := exists_interruptedAt p e lines h hraised
    -- The last query is the one at which the session is interrupted.
    refine ⟨asked p before ++ [i], ?_, ?_, ?_⟩
    · intro j hj
      rcases List.mem_append.mp hj with hj | hj
      · exact exists_query_of_mem_asked p hj
      · obtain ⟨text, -, hi⟩ := Option.bind_eq_some_iff.mp hat.question
        obtain ⟨q, -, -, hq⟩ := p.exists_query_of_questionInvocation? hi
        exact ⟨q, (List.mem_singleton.mp hj).trans hq⟩
    · rw [hat.course after]
      exact hat.worked
    · intro early j late hsplit
      -- Only the last query raises an interrupt, so what stands before any query does not.
      have hpart : early <+: asked p before := by
        rcases List.prefix_concat_iff.mp ⟨j :: late, hsplit.symm⟩ with hall | hpart
        · rw [hall] at hsplit
          simp at hsplit
        · exact hpart
      obtain ⟨rest, hrest⟩ := hpart
      have hquiet := hat.quiet
      rw [← hrest] at hquiet
      exact Desk.raisedBehind_of_append hquiet

/-- **What a session invokes**: probes of its setup check, then queries, every one of them while
    interrupts cancel, and no query once an interrupt has been raised. -/
theorem exists_run_worked (d : Desk σ) (out err : Bytes) (lines : List Bytes) :
    ∃ probes queries, probes <+: p.probes ∧ (∀ i ∈ queries, ∃ q, i = p.queryInvocation q) ∧
      Desk.Worked e (probes ++ queries) d
        (onLines p fs e d out err lines).2.desk ∧
      ∀ early i late, queries = early ++ i :: late → d.raisedBehind e (probes ++ early) = false := by
  -- A session ends with its setup check, in front of the first prompt, or among its lines.
  cases hsuccess : (p.checkSetup fs e d.busy).1.isSuccess with
  | false =>
    obtain ⟨made, hpart, hchecked, -⟩ := checked_worked p e fs d
    refine ⟨made, [], hpart, nofun, ?_, fun early i late hsplit => ?_⟩
    · rw [onLines, perform_run_of_failure p e fs hsuccess, List.append_nil]
      exact hchecked
    · simp at hsplit
  | true =>
    obtain ⟨summary, hsetup⟩ := exists_of_isSuccess hsuccess
    have hopened := opened_worked p e fs hsuccess
    cases hraised : (opened p fs e d).interrupts.raised with
    | true =>
      refine ⟨p.probes, [], List.prefix_refl _, nofun, ?_, fun early i late hsplit => ?_⟩
      · rw [onLines, perform_run_of_success p e fs hsetup,
          perform_answerLines_of_raised p e hraised, List.append_nil]
        exact hopened
      · simp at hsplit
    | false =>
      obtain ⟨queries, hqueries, hworked, hearly⟩ := exists_course_worked p e lines hraised
      refine ⟨p.probes, queries, List.prefix_refl _, hqueries, ?_, fun early i late hsplit => ?_⟩
      · rw [onLines, perform_run_of_success p e fs hsetup, perform_answerLines p e hraised]
        exact hopened.trans hworked
      · rw [hopened.raisedBehind_append]
        exact hearly early i late hsplit

/-! ### The first interrupt -/

variable {d : Desk σ} {summary : String}

/-- **An interrupt during the setup check**, if the setup succeeds all the same, ends the session
    before its first prompt. -/
theorem run_of_raised_in_setup (hsetup : (p.checkSetup fs e d.busy).1 = .success summary)
    (h : d.raisedBehind e p.probes = true) (lines : List Bytes) (out err : Bytes) :
    onLines p fs e d out err lines
      = (.ok .success, .unlimited (opened p fs e d)
          (out ++ Utf8.encode (greeting summary) ++ Utf8.encode (farewell ++ "\n")) err) := by
  have hopened : Desk.Worked e p.probes d (opened p fs e d) :=
    opened_worked p e fs (by rw [hsetup]; rfl)
  have hraised : (opened p fs e d).interrupts.raised = true := hopened.raised.trans h
  rw [onLines, perform_run_of_success p e fs hsetup, perform_answerLines_of_raised p e hraised]

/-- **An interrupt during a query** ends the session behind the prompt of its line: of the query
    nothing is written, and what follows the line makes no difference. -/
theorem run_of_raised_in_query (hsetup : (p.checkSetup fs e d.busy).1 = .success summary)
    (h : d.raisedBehind e p.probes = false) {lines : List Bytes} (out err : Bytes)
    (hraised : (onLines p fs e d out err lines).2.desk.interrupts.raised = true) :
    ∃ before line rest i desk, lines = before ++ line :: rest ∧
      (handled before).length = before.length ∧
      (Utf8.decode? line).bind p.questionInvocation? = some i ∧
      d.raisedBehind e (p.probes ++ asked p before) = false ∧
      Desk.Worked e (p.probes ++ asked p before ++ [i]) d desk ∧
      let replies := d.repliesTo e (p.probes ++ asked p before)
      let blocks := blocksOf p (handled before) (replies.drop p.probes.length)
      ∀ rest', onLines p fs e d out err (before ++ line :: rest')
        = (.ok .success, .unlimited desk
            (out ++ Utf8.encode (greeting summary) ++
              (blocks.flatMap fun b => Utf8.encode (prompt ++ b.out)) ++
                Utf8.encode (prompt ++ ("\n" ++ farewell ++ "\n")))
            (err ++ blocks.flatMap fun b => Utf8.encode b.err)) := by
  have hopened : Desk.Worked e p.probes d (opened p fs e d) :=
    opened_worked p e fs (by rw [hsetup]; rfl)
  have hfirst : (opened p fs e d).interrupts.raised = false := hopened.raised.trans h
  -- From the first prompt on, the session is its course written out.
  have hperform (input : List Bytes) := perform_answerLines p e hfirst input
    (out ++ Utf8.encode (greeting summary)) err
  -- Without an interrupt in a query the flag would be down at the end.
  have hquery : (opened p fs e d).raisedBehind e (asked p lines) = true := by
    cases hnever : (opened p fs e d).raisedBehind e (asked p lines) with
    | true => rfl
    | false =>
      obtain ⟨-, -, hworked⟩ := course_of_quiet p e lines hnever
      rw [onLines, perform_run_of_success p e fs hsetup, hperform lines] at hraised
      rw [← hraised, ← hnever]
      exact hworked.raised.symm
  obtain ⟨before, line, rest, i, desk, hlines, hat⟩ := exists_interruptedAt p e lines hfirst hquery
  have hreplies := hopened.drop_repliesTo (asked p before)
  refine ⟨before, line, rest, i, desk, hlines, hat.handled, hat.question, ?_, ?_, fun rest' => ?_⟩
  · rw [hopened.raisedBehind_append]
    exact hat.quiet
  · rw [List.append_assoc]
    exact hopened.trans hat.worked
  · rw [onLines, perform_run_of_success p e fs hsetup, hperform, hat.course rest', hreplies]
    simp only [Course.out, Course.err, List.append_assoc]
    rfl

/-- What comes before the first prompt ends in a line break. -/
theorem newLine_suffix_greeting (summary : String) :
    Utf8.encode "\n" <:+ Utf8.encode (greeting summary) := by
  have hbreak : "\n\n" = "\n" ++ "\n" := by decide
  refine ⟨Utf8.encode (banner ++ "\n\n" ++ ("Engine ready: " ++ summary ++ "\n")), ?_⟩
  rw [← Utf8.encode_append, greeting, hbreak]
  simp only [String.append_assoc]

/-- **An interrupted session whose setup succeeded is a success**, and its farewell stands on a
    line of its own. -/
theorem farewell_of_raised (hsetup : (p.checkSetup fs e d.busy).1.isSuccess = true)
    (lines : List Bytes) (out err : Bytes)
    (hraised : (onLines p fs e d out err lines).2.desk.interrupts.raised = true) :
    (onLines p fs e d out err lines).1 = .ok .success ∧
      Utf8.encode ("\n" ++ farewell ++ "\n")
        <:+ (onLines p fs e d out err lines).2.out.stored := by
  obtain ⟨summary, hsummary⟩ := exists_of_isSuccess hsetup
  cases h : d.raisedBehind e p.probes with
  | true =>
    rw [run_of_raised_in_setup p fs e hsummary h]
    -- The greeting ends in the line break that the farewell comes behind.
    obtain ⟨start, hstart⟩ := newLine_suffix_greeting summary
    refine ⟨rfl, out ++ start, ?_⟩
    show _ = out ++ Utf8.encode (greeting summary) ++ Utf8.encode (farewell ++ "\n")
    rw [← hstart, encode_farewell]
    simp only [List.append_assoc]
  | false =>
    obtain ⟨before, line, rest, i, desk, rfl, -, -, -, -, hrun⟩ :=
      run_of_raised_in_query p fs e hsummary h out err hraised
    rw [hrun rest]
    refine ⟨rfl, List.suffix_append_of_suffix ?_⟩
    rw [Utf8.encode_append prompt]
    exact List.suffix_append _ _

/-- **What interrupts do to a session**, for every engine and every input:
    * probes are invoked, then queries, none of them once an interrupt has been raised, and
      every interrupt that is delivered meanwhile cancels;
    * if there was one and the setup succeeded, the session is a success and says farewell;
    * if it came during the setup, there is no prompt, and nothing is read;
    * if it came during a query, nothing of the query is written, and nothing more is read;
    * the raised flag is never cleared. -/
theorem run_interrupted (d : Desk σ) (out err : Bytes) (lines : List Bytes) :
    let setup := (p.checkSetup fs e d.busy).1
    (∃ probes queries, probes <+: p.probes ∧ (∀ i ∈ queries, ∃ q, i = p.queryInvocation q) ∧
      Desk.Worked e (probes ++ queries) d (onLines p fs e d out err lines).2.desk ∧
      ∀ early i late, queries = early ++ i :: late →
        d.raisedBehind e (probes ++ early) = false) ∧
    (setup.isSuccess = true → (onLines p fs e d out err lines).2.desk.interrupts.raised = true →
      (onLines p fs e d out err lines).1 = .ok .success ∧
      Utf8.encode ("\n" ++ farewell ++ "\n") <:+ (onLines p fs e d out err lines).2.out.stored) ∧
    (∀ summary, setup = .success summary → d.raisedBehind e p.probes = true →
      onLines p fs e d out err lines = (.ok .success, .unlimited (opened p fs e d)
        (out ++ Utf8.encode (greeting summary) ++ Utf8.encode (farewell ++ "\n")) err)) ∧
    (∀ summary, setup = .success summary → d.raisedBehind e p.probes = false →
      (onLines p fs e d out err lines).2.desk.interrupts.raised = true →
      ∃ before line rest i desk, lines = before ++ line :: rest ∧
        (handled before).length = before.length ∧
        (Utf8.decode? line).bind p.questionInvocation? = some i ∧
        d.raisedBehind e (p.probes ++ asked p before) = false ∧
        Desk.Worked e (p.probes ++ asked p before ++ [i]) d desk ∧
        let replies := d.repliesTo e (p.probes ++ asked p before)
        let blocks := blocksOf p (handled before) (replies.drop p.probes.length)
        ∀ rest', onLines p fs e d out err (before ++ line :: rest') = (.ok .success, .unlimited desk
          (out ++ Utf8.encode (greeting summary) ++
            (blocks.flatMap fun b => Utf8.encode (prompt ++ b.out)) ++
              Utf8.encode (prompt ++ ("\n" ++ farewell ++ "\n")))
          (err ++ blocks.flatMap fun b => Utf8.encode b.err))) ∧
    (∀ steps (i : Interrupts), i.raised = true → (Interrupts.performAll steps i).2.raised = true) := by
  intro setup
  refine ⟨exists_run_worked p fs e d out err lines, ?_, ?_, ?_, ?_⟩
  · intro hsetup hraised
    exact farewell_of_raised p fs e hsetup lines out err hraised
  · intro summary hsetup h
    exact run_of_raised_in_setup p fs e hsetup h lines out err
  · intro summary hsetup h hraised
    exact run_of_raised_in_query p fs e hsetup h out err hraised
  · intro steps i h
    exact Interrupts.raised_performAll steps h

/-- An interrupt during the first query, and one during the version probe of another session. -/
theorem run_interrupted_twice :
    let p : Pipeline := ⟨⟨"go", rfl⟩, "pl", ⟨[47, 114], [47, 103]⟩⟩
    let file : Node := .file ⟨[], false, none⟩
    let fs : FileSystem := ⟨[([[114]], file), ([[103]], file)]⟩
    let version : Ending := .report ⟨.exited 0, "V 9\n", ""⟩
    let loaded : Ending := .report ⟨.exited 0, "LEZ SETUP OK\n", ""⟩
    let summary := "V 9; rule base and grammar loaded"
    let query : Invocation := .directive "pl" "(consult('/r'), consult('/g'), go(['a']), halt)"
    let inQuery := Desk.fresh [⟨false, version⟩, ⟨false, loaded⟩, ⟨true, .report ⟨.interrupted, "", ""⟩⟩]
    let inProbe := Desk.fresh [⟨true, version⟩, ⟨false, loaded⟩]
    (∃ desk, desk.actions = [.cancel] ∧ desk.invocations = p.probes ++ [query] ∧
      ∀ rest, onLines p fs Script.engine inQuery [] [] ([97, 10] :: rest)
        = (.ok .success, .unlimited desk
            (Utf8.encode (greeting summary) ++
              Utf8.encode (prompt ++ ("\n" ++ farewell ++ "\n"))) [])) ∧
    (∃ desk, ∀ lines : List Bytes, onLines p fs Script.engine inProbe [] [] lines
        = (.ok .success, .unlimited desk
            (Utf8.encode (greeting summary) ++ Utf8.encode (farewell ++ "\n")) [])) := by
  intro p file fs version loaded summary query inQuery inProbe
  refine ⟨?_, opened p fs Script.engine inProbe, fun lines => ?_⟩
  · have hsetup : (p.checkSetup fs Script.engine inQuery.busy).1 = .success summary := by
      decide +kernel
    have hquiet : inQuery.raisedBehind Script.engine p.probes = false := by decide +kernel
    have hraised : (onLines p fs Script.engine inQuery [] [] [[97, 10]]).2.desk.interrupts.raised
        = true := by
      have hfirst : (opened p fs Script.engine inQuery).interrupts.raised = false := by
        decide +kernel
      rw [onLines, perform_run_of_success p Script.engine fs hsetup,
        perform_answerLines p Script.engine hfirst]
      show (course p Script.engine [[97, 10]] (opened p fs Script.engine inQuery)).desk.interrupts.raised
        = true
      decide +kernel
    obtain ⟨-, -, -, hfound, -⟩ := run_interrupted p fs Script.engine inQuery [] [] [[97, 10]]
    obtain ⟨before, line, rest, i, desk, hlines, -, hquestion, -, hworked, hrun⟩ :=
      hfound summary hsetup hquiet hraised
    obtain ⟨rfl, rfl, rfl⟩ : before = [] ∧ line = [97, 10] ∧ rest = [] := by
      cases before with
      | nil =>
        rw [List.nil_append, List.cons.injEq] at hlines
        exact ⟨rfl, hlines.1.symm, hlines.2.symm⟩
      | cons first before => simp at hlines
    have hline : (Utf8.decode? [97, 10]).bind p.questionInvocation? = some query := by
      decide +kernel
    obtain rfl := Option.some.inj (hline.symm.trans hquestion)
    have hblocks : blocksOf p (handled [])
        ((inQuery.repliesTo Script.engine (p.probes ++ asked p [])).drop p.probes.length) = [] := rfl
    have hactions : inQuery.actions ++ ((inQuery.repliesTo Script.engine
        (p.probes ++ asked p [] ++ [query])).filter (·.interrupted)).map (fun _ => .cancel)
        = [InterruptAction.cancel] := by
      decide +kernel
    refine ⟨desk, hworked.actions.trans hactions, hworked.invocations, fun rest => ?_⟩
    have hrest := hrun rest
    rw [hblocks, List.nil_append, List.nil_append, List.flatMap_nil, List.append_nil,
      List.nil_append, List.flatMap_nil] at hrest
    exact hrest
  · have hsetup : (p.checkSetup fs Script.engine inProbe.busy).1 = .success summary := by
      decide +kernel
    have hraised : inProbe.raisedBehind Script.engine p.probes = true := by decide +kernel
    obtain ⟨-, -, hfound, -, -⟩ := run_interrupted p fs Script.engine inProbe [] [] lines
    have hrun := hfound summary hsetup hraised
    rw [List.nil_append] at hrun
    exact hrun

end Session

end ZoneAccess

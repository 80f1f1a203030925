import ZoneAccess.Proofs.Session.Lines

namespace ZoneAccess.Session

/-!
# Sessions without interrupts

* `run_of_quiet` — what a session comes to, for every input and every engine that sends no
  interrupt, when the streams take everything.
-/

variable {σ : Type}

/-- Behind a last line that is text, a session ends well, with its farewell. -/
theorem Close.farewell_of_ne_unreadable {c : Close} (h : c ≠ .unreadable) :
    c.result = .ok .success ∧ Utf8.encode (farewell ++ "\n") <:+ Utf8.encode (prompt ++ c.out) := by
  cases c with
  | inputOver =>
    refine ⟨rfl, Utf8.encode prompt ++ Utf8.encode "\n", ?_⟩
    rw [Close.out, Utf8.encode_append prompt, encode_farewell, List.append_assoc]
  | exit => exact ⟨rfl, Utf8.encode prompt, (Utf8.encode_append _ _).symm⟩
  | unreadable => exact absurd rfl h
  | interrupted =>
    refine ⟨rfl, Utf8.encode prompt ++ Utf8.encode "\n", ?_⟩
    rw [Close.out, Utf8.encode_append prompt, encode_farewell, List.append_assoc]

/-- A session whose setup failed makes probes at most, and writes the same for every input. -/
theorem run_of_bad_setup (p : Pipeline) (fs : FileSystem) (e : Engine σ) (d : Desk σ)
    (out err : Bytes) {failure : Outcome} (hfailure : failure.isSuccess = false)
    (h : (p.checkSetup fs e d.busy).1 = failure) :
    ∃ made desk, made <+: p.probes ∧ (∀ q, p.queryInvocation q ∉ made) ∧
      Desk.Worked e made d desk ∧
      ∀ input, (run p fs e input).perform (.unlimited d out err)
        = (.ok .failure, .unlimited desk (out ++ Utf8.encode (banner ++ "\n\n"))
            (err ++ Utf8.encode (setupReport failure.message))) := by
  obtain ⟨made, hpart, hworked, -⟩ := checked_worked p e fs d
  refine ⟨made, checked p fs e d, hpart, fun q hq => ?_, hworked, fun input => ?_⟩
  · exact p.queryInvocation_not_mem_probes p q (hpart.subset hq)
  · subst h
    exact perform_run_of_failure p e fs hfailure input out err

/-- **What a session comes to without interrupts.** If the setup check fails, nothing is read
    and nothing is asked: the banner and a report of the setup are all that is written.
    Otherwise:
    * the engine is asked, behind the two probes, for each handled line that has tokens, in
      order;
    * each handled line costs a prompt and adds its block, and behind the last prompt the
      session closes;
    * unless the line there is no text, the session is a success and ends in its farewell. -/
theorem run_of_quiet (p : Pipeline) (fs : FileSystem) (e : Engine σ) (d : Desk σ)
    (out err : Bytes) (hraised : d.interrupts.raised = false) (hquiet : e.Quiet d.engine) :
    match (p.checkSetup fs e d.busy).1 with
    | .success summary => ∀ input : Bytes,
      let lines := cutAfter (· == 10) input
      let replies := d.repliesTo e (p.probes ++ asked p lines)
      let blocks := blocksOf p (handled lines) (replies.drop p.probes.length)
      let stdout := out ++ Utf8.encode (greeting summary) ++
        (blocks.flatMap fun b => Utf8.encode (prompt ++ b.out)) ++
          Utf8.encode (prompt ++ (closing lines).out)
      let stderr := err ++ blocks.flatMap fun b => Utf8.encode b.err
      (∃ desk, Desk.Worked e (p.probes ++ asked p lines) d desk ∧
        (run p fs e (linesOf input)).perform (.unlimited d out err)
          = ((closing lines).result, .unlimited desk stdout stderr)) ∧
      blocks.length = (handled lines).length ∧
      (closing lines ≠ .unreadable → (closing lines).result = .ok .success ∧
        Utf8.encode (farewell ++ "\n") <:+ stdout)
    | failure => ∃ made desk, made <+: p.probes ∧ (∀ q, p.queryInvocation q ∉ made) ∧
      Desk.Worked e made d desk ∧
      ∀ input, (run p fs e input).perform (.unlimited d out err)
        = (.ok .failure, .unlimited desk (out ++ Utf8.encode (banner ++ "\n\n"))
            (err ++ Utf8.encode (setupReport failure.message))) := by
  cases hsetup : (p.checkSetup fs e d.busy).1 with
  | success summary =>
    intro input lines replies blocks stdout stderr
    have hopened : Desk.Worked e p.probes d (opened p fs e d) :=
      opened_worked p e fs (by rw [hsetup]; rfl)
    have hfirst : (opened p fs e d).interrupts.raised = false := by
      rw [hopened.raised, hquiet.raisedBehind hraised]
    -- The engine is as quiet behind the probes as it was before them.
    have hnever : (opened p fs e d).raisedBehind e (asked p lines) = false := by
      rw [← hopened.raisedBehind_append, hquiet.raisedBehind hraised]
    have hreplies : replies.drop p.probes.length = (opened p fs e d).repliesTo e (asked p lines) :=
      hopened.drop_repliesTo (asked p lines)
    obtain ⟨hblocks, hclose, hworked⟩ := course_of_quiet p e lines hnever
    refine ⟨⟨_, hopened.trans hworked, ?_⟩, ?_, fun hreadable => ?_⟩
    · rw [perform_run_of_success p e fs hsetup, linesOf, perform_answerLines p e hfirst,
        Course.out, Course.err, hblocks, hclose, ← hreplies]
      simp only [stdout, stderr, blocks, List.append_assoc]
      rfl
    · -- Each invocation has its reply, so each handled line has its block.
      refine length_blocksOf p (handled lines) _ ?_
      rw [hreplies, Desk.length_repliesTo]
      rfl
    · obtain ⟨hresult, hsuffix⟩ := Close.farewell_of_ne_unreadable hreadable
      exact ⟨hresult, hsuffix.trans (List.suffix_append _ _)⟩
  | setupError m => exact run_of_bad_setup p fs e d out err rfl hsetup
  | runtimeError m => exact run_of_bad_setup p fs e d out err rfl hsetup

/-- A session with an answer, a blank line, a line of noise, a failed question and an `exit`
    with more behind it. -/
theorem run_of_quiet_five_lines :
    let p : Pipeline := ⟨⟨"go", rfl⟩, "pl", ⟨[47, 114], [47, 103]⟩⟩
    let file : Node := .file ⟨[], false, none⟩
    let fs : FileSystem := ⟨[([[114]], file), ([[103]], file)]⟩
    let script : Script := [⟨false, .report ⟨.exited 0, "V 9\n", ""⟩⟩,
      ⟨false, .report ⟨.exited 0, "LEZ SETUP OK\n", ""⟩⟩, ⟨false, .report ⟨.exited 0, "yes\n", ""⟩⟩,
      ⟨false, .report ⟨.exited 1, "", "no\n"⟩⟩]
    let d := Desk.fresh script
    let blocks : List Block :=
      [.answered (.success "yes"), .blank, .noise, .answered (.runtimeError "no")]
    d.interrupts.raised = false ∧ Script.engine.Quiet script ∧
    ∃ desk, desk.invocations = p.probes ++
        [.directive "pl" "(consult('/r'), consult('/g'), go(['i']), halt)",
          .directive "pl" "(consult('/r'), consult('/g'), go(['u']), halt)"] ∧
      (run p fs Script.engine (linesOf (Utf8.encode "I\n \n?\nu\n Exit\n."))).perform
          (.unlimited d [] [])
        = (.ok .success, .unlimited desk
            (Utf8.encode (greeting "V 9; rule base and grammar loaded") ++
              (blocks.flatMap fun b => Utf8.encode (prompt ++ b.out)) ++
                Utf8.encode (prompt ++ Close.exit.out))
            (blocks.flatMap fun b => Utf8.encode b.err)) := by
  intro p file fs script d blocks
  have hquiet : Script.engine.Quiet script := Script.quiet (by decide)
  have hrun := run_of_quiet p fs Script.engine d [] [] rfl hquiet
  have hsetup : (p.checkSetup fs Script.engine d.busy).1
      = .success "V 9; rule base and grammar loaded" := by
    decide +kernel
  rw [hsetup] at hrun
  obtain ⟨⟨desk, hworked, hperform⟩, -, -⟩ := hrun (Utf8.encode "I\n \n?\nu\n Exit\n.")
  have hclosing : closing (cutAfter (· == 10) (Utf8.encode "I\n \n?\nu\n Exit\n.")) = .exit := by
    decide +kernel
  have hblocks : blocksOf p (handled (cutAfter (· == 10) (Utf8.encode "I\n \n?\nu\n Exit\n.")))
      ((d.repliesTo Script.engine (p.probes ++
        asked p (cutAfter (· == 10) (Utf8.encode "I\n \n?\nu\n Exit\n.")))).drop p.probes.length)
      = blocks := by
    decide +kernel
  rw [hclosing, hblocks, List.nil_append, List.nil_append] at hperform
  exact ⟨rfl, hquiet, desk, hworked.invocations.trans (by decide +kernel), hperform⟩

end ZoneAccess.Session

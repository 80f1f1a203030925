import ZoneAccess.Proofs.Child.Cleanup

namespace ZoneAccess.Child

/-!
# What a run reports

When a wait is over, what ends it, and what becomes of the two streams.

* `Poll.Due` — a poll gives a reason to stop; `Poll.Ends` — what a wait comes to that stops at a
  poll, and what it calls there. A child that has ended comes before an interrupt, and an interrupt
  before the time limit;
* `await_due` — a wait stops at the first poll that gives a reason, and comes to just that;
* `Shows` — the text that comes of a stream, by the reads that were made of it: all of it, nothing,
  or an error; `shows_iff` says that it is what the reader makes of them;
* `run_reports` — both together: what a whole run reports.
-/

/-! ### The end of the wait -/

/-- A poll gives a reason to stop waiting: the child does not go on, or an interrupt is up that
    counts, or the time is over. -/
def Poll.Due (l : Limits) (p : Poll) : Prop :=
  p.status ≠ .ok none ∨ (l.interruptible = true ∧ p.raised = true) ∨
    ∃ timeout, l.timeout = some timeout ∧ timeout.toNanos ≤ p.elapsed.toNanos

/-- What a wait that stops at a poll comes to, and the calls that it makes there. The child is
    killed if it was still running, and only then. -/
inductive Poll.Ends (program : String) (l : Limits) (p : Poll) :
    Except EngineError Termination → List Call → Prop
  | exited {status : Int} (h : p.status = .ok (some (.exited status))) :
    Ends program l p (.ok (.exited status)) [.poll true]
  | signalled {signal : Option Int} (h : p.status = .ok (some (.ended signal))) :
    Ends program l p (.ok (.signalled signal)) [.poll true]
  | interrupted (hrunning : p.status = .ok none)
      (hup : l.interruptible = true ∧ p.raised = true) :
    Ends program l p (.ok .interrupted) [.poll false, .killGroup, .killChild, .reap]
  | timedOut {timeout : Duration} (hrunning : p.status = .ok none)
      (hup : ¬ (l.interruptible = true ∧ p.raised = true)) (htimeout : l.timeout = some timeout)
      (hover : timeout.toNanos ≤ p.elapsed.toNanos) :
    Ends program l p (.ok (.timedOut timeout)) [.poll false, .killGroup, .killChild, .reap]
  | lost {cause : SystemError} (h : p.status = .error cause) :
    Ends program l p (.error (.lost program cause)) [.poll false]

/-- A poll at which a wait stops gives a reason. -/
theorem Poll.Ends.due {program : String} {l : Limits} {p : Poll}
    {waited : Except EngineError Termination} {calls : List Call}
    (h : p.Ends program l waited calls) : p.Due l := by
  cases h with
  | exited h | signalled h | lost h => exact .inl (by simp [h])
  | interrupted _ hup => exact .inr (.inl hup)
  | timedOut _ _ htimeout hover => exact .inr (.inr ⟨_, htimeout, hover⟩)

/-- A poll that finds the child running gives no reason exactly if nothing stops the wait there. -/
theorem stop?_eq_none_iff {l : Limits} {p : Poll} (hrunning : p.status = .ok none) :
    l.stop? p = none ↔ ¬ p.Due l := by
  unfold Limits.stop? Poll.Due
  -- In the order in which they are asked: the interrupt, then the time.
  by_cases hup : l.interruptible = true ∧ p.raised = true
  · simp [hup]
  · rw [if_neg (by simpa using hup)]
    cases htimeout : l.timeout with
    | none => simpa [hrunning] using hup
    | some timeout =>
      by_cases hover : timeout.toNanos ≤ p.elapsed.toNanos
      · simp [timeIsOver, hover]
      · simpa [timeIsOver, hover, hrunning] using hup

/-- What stops the wait at a poll that finds the child running. -/
theorem ends_of_stop? (program : String) {l : Limits} {p : Poll} {termination : Termination}
    (hrunning : p.status = .ok none) (h : l.stop? p = some termination) :
    p.Ends program l (.ok termination) [.poll false, .killGroup, .killChild, .reap] := by
  unfold Limits.stop? at h
  split at h
  · next hup =>
    obtain rfl := Option.some.inj h
    exact .interrupted hrunning (by simpa using hup)
  · next hup =>
    cases htimeout : l.timeout with
    | none =>
      rw [htimeout] at h
      cases h
    | some timeout =>
      rw [htimeout] at h
      dsimp only at h
      split at h
      · next hover =>
        obtain rfl := Option.some.inj h
        exact .timedOut hrunning (by simpa using hup) htimeout (by simpa [timeIsOver] using hover)
      · cases h

/-- **A wait stops at the first poll that gives a reason**, neither before nor behind it, and comes
    to what the poll says. -/
theorem await_due (program : String) (l : Limits) (polls : List Poll) {g : Guard}
    (hreaped : g.reaped = false) :
    match await program l g polls with
    | none => ∀ p ∈ polls, ¬ p.Due l
    | some (waited, last) => ∃ before p after calls,
        polls = before ++ p :: after ∧ (∀ q ∈ before, ¬ q.Due l) ∧
        p.Ends program l waited calls ∧
        last.calls = g.calls ++ List.replicate before.length (.poll false) ++ calls := by
  -- Every poll adds its call to the guard, so the claim is about all guards.
  induction polls generalizing g with
  | nil =>
    rw [await]
    intro p hp
    cases hp
  | cons p polls ih =>
    unfold await
    dsimp only
    cases hstatus : p.status with
    | error cause =>
      refine ⟨[], p, polls, [.poll false], rfl, nofun, .lost hstatus, ?_⟩
      simp [Guard.look]
    | ok found =>
      cases found with
      | some status =>
        refine ⟨[], p, polls, [.poll true], rfl, nofun, ?_, ?_⟩
        · cases status with
          | exited status => exact .exited hstatus
          | ended signal => exact .signalled hstatus
        · simp [Guard.look]
      | none =>
        cases hstop : l.stop? p with
        | some termination =>
          refine ⟨[], p, polls, _, rfl, nofun, ends_of_stop? program hstatus hstop, ?_⟩
          simp [Guard.look, Guard.terminate, hreaped]
        | none =>
          have hnot : ¬ p.Due l := (stop?_eq_none_iff hstatus).mp hstop
          have hrunning : (g.look (.ok none)).reaped = false := hreaped
          have hrest := ih hrunning
          dsimp only
          cases hawait : await program l (g.look (.ok none)) polls with
          | none =>
            rw [hawait] at hrest
            exact List.forall_mem_cons.mpr ⟨hnot, hrest⟩
          | some ended =>
            rw [hawait] at hrest
            obtain ⟨before, q, after, calls, rfl, hbefore, hends, hcalls⟩ := hrest
            -- The poll at the front gave no reason, so the first that does is the one behind it.
            refine ⟨p :: before, q, after, calls, rfl, List.forall_mem_cons.mpr ⟨hnot, hbefore⟩,
              hends, ?_⟩
            rw [hcalls]
            simp [Guard.look, List.replicate_succ]

/-! ### The two streams -/

/-- A read after which the reader goes on. -/
def Read.GoesOn : Read → Prop
  | bytes _ => True
  | again => True
  | _ => False

/-- What a read adds to the bytes of a stream. -/
def Read.got : Read → Bytes
  | bytes bs => bs
  | _ => []

/-- What comes of a stream, by the reads that were made of it: the text of all its bytes if they
    came to an end in time, nothing if they did not, and an error if a read failed or the reader
    broke down. -/
inductive Shows (program : String) : List Read → Except EngineError String → Prop
  | whole {reads rest : List Read} (h : ∀ r ∈ reads, r.GoesOn) :
    Shows program (reads ++ .done :: rest) (.ok (Utf8.decodeLossy (reads.flatMap Read.got)))
  | expired {reads : List Read} (h : ∀ r ∈ reads, r.GoesOn) : Shows program reads (.ok "")
  | failed {reads rest : List Read} {cause : SystemError} (h : ∀ r ∈ reads, r.GoesOn) :
    Shows program (reads ++ .failed cause :: rest) (.error (.lost program cause))
  | broken {reads rest : List Read} (h : ∀ r ∈ reads, r.GoesOn) :
    Shows program (reads ++ .broken :: rest)
      (.error (.lost program (.other "output reader panicked")))

/-- Behind reads after which it goes on, the reader has got so much more. -/
theorem ofReads_append {reads : List Read} (h : ∀ r ∈ reads, r.GoesOn) (got : Bytes)
    (rest : List Read) :
    Collected.ofReads got (reads ++ rest) = .ofReads (got ++ reads.flatMap Read.got) rest := by
  induction reads generalizing got with
  | nil => simp
  | cons r reads ih =>
    have hreads := fun r' hr' => h r' (List.mem_cons_of_mem r hr')
    have hr := h r List.mem_cons_self
    cases r with
    | bytes bs => simp [Collected.ofReads, ih hreads, Read.got]
    | again => simp [Collected.ofReads, ih hreads, Read.got]
    | done | failed cause | broken => cases hr

/-- The reader goes on to the end of what comes in time, or there is a first read that ends it. -/
theorem exists_last_read (reads : List Read) :
    (∀ r ∈ reads, r.GoesOn) ∨
    ∃ early r late, reads = early ++ r :: late ∧ (∀ r ∈ early, r.GoesOn) ∧ ¬ r.GoesOn := by
  induction reads with
  | nil => exact .inl nofun
  | cons r reads ih =>
    -- A read that ends the reader is the first such; behind any other it is looked for in the rest.
    by_cases hr : r.GoesOn
    · obtain h | ⟨early, last, late, rfl, hearly, hlast⟩ := ih
      · exact .inl (List.forall_mem_cons.mpr ⟨hr, h⟩)
      · exact .inr ⟨r :: early, last, late, rfl, List.forall_mem_cons.mpr ⟨hr, hearly⟩, hlast⟩
    · exact .inr ⟨[], r, reads, rfl, nofun, hr⟩

/-- **What the reader makes of a stream** is what its reads say. -/
theorem shows_iff {program : String} {reads : List Read} {text : Except EngineError String} :
    Shows program reads text ↔ (Collected.ofReads [] reads).text program = text := by
  have hmade {text : Except EngineError String} (h : Shows program reads text) :
      (Collected.ofReads [] reads).text program = text := by
    cases h with
    | whole h | failed h | broken h =>
      rw [ofReads_append h]
      rfl
    | expired h =>
      rw [← List.append_nil reads, ofReads_append h]
      rfl
  refine ⟨hmade, ?_⟩
  rintro rfl
  -- The reader makes one thing of the reads, so it is enough that they show anything.
  suffices hshown : ∃ text, Shows program reads text by
    obtain ⟨text, hshows⟩ := hshown
    rwa [hmade hshows]
  obtain h | ⟨early, last, late, rfl, hearly, hlast⟩ := exists_last_read reads
  · exact ⟨_, .expired h⟩
  · cases last with
    | bytes bs | again => exact absurd trivial hlast
    | done => exact ⟨_, .whole hearly⟩
    | failed cause => exact ⟨_, .failed hearly⟩
    | broken => exact ⟨_, .broken hearly⟩

/-! ### Runs -/

/-- **What one run reports.** Whatever the polls find and whatever is read of the streams, with or
    without a time limit and with or without interrupts:
    * the wait stops at the first poll that gives a reason, and goes on for ever if there is none.
      It has made one poll for each before it, and comes to the status of the child if that has
      ended, else to an interrupt if one is up, else to the time limit, just as it was set. It has
      killed the child in the last two cases only;
    * the report has this termination, and for each stream by itself the text of all its bytes, or
      none if they had no end in time. If the wait or a stream was lost, that is the result. -/
theorem run_reports (program : String) (l : Limits) (polls : List Poll) (out err : List Read) :
    let a : Answers := ⟨.ok (), polls, .ofReads [] out, .ofReads [] err⟩
    match await program l .started polls with
    | none => (∀ p ∈ polls, ¬ p.Due l) ∧ run program l a = none
    | some (waited, g) =>
      (∃ before p after calls,
        polls = before ++ p :: after ∧ (∀ q ∈ before, ¬ q.Due l) ∧ p.Due l ∧
        p.Ends program l waited calls ∧
        g.calls = .start :: (List.replicate before.length (.poll false) ++ calls)) ∧
      ∃ r outText errText, run program l a = some r ∧
        Shows program out outText ∧ Shows program err errText ∧
        r.result = do
          let termination ← waited
          let stdout ← outText
          let stderr ← errText
          return ⟨termination, stdout, stderr⟩ := by
  intro a
  have hwait := await_due program l polls (g := .started) rfl
  have hrun : run program l a = (await program l .started polls).map _ := run_of_started rfl
  cases hawait : await program l .started polls with
  | none =>
    rw [hawait] at hwait hrun
    exact ⟨hwait, hrun⟩
  | some ended =>
    obtain ⟨waited, g⟩ := ended
    rw [hawait] at hwait hrun
    obtain ⟨before, p, after, calls, hpolls, hbefore, hends, hcalls⟩ := hwait
    refine ⟨⟨before, p, after, calls, hpolls, hbefore, hends.due, hends, hcalls⟩, ?_⟩
    -- The texts are whatever the reads show, and they show just one thing each.
    cases waited with
    | error problem => exact ⟨_, _, _, hrun, shows_iff.mpr rfl, shows_iff.mpr rfl, rfl⟩
    | ok termination => exact ⟨_, _, _, hrun, shows_iff.mpr rfl, shows_iff.mpr rfl, rfl⟩

end ZoneAccess.Child

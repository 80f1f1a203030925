import ZoneAccess.Child.Runner

namespace ZoneAccess.Child

/-!
# No run leaves its child behind

What has been done with a child by the time that its run comes back, on every way out.

* `Call.reaps` — the calls that reap a child: a poll that finds it ended, and a wait for it;
* `Guard.Next`, `Guard.Steps` — what a run does with a child that it looks after: it looks at one
  that is not reaped yet, or terminates it; and a row of such things;
* `Guard.Exact` — the field of the guard tells whether the child was reaped, and that was never
  twice; every step keeps this, and so does a row of them (`Guard.Steps.exact`);
* `Guard.Polled`, `Guard.Killed` — a poll was made, and the group was killed behind the last one;
* `await_steps` — what a wait does with the child;
* `run_leaves_no_child` — what a whole run does with it.
-/

/-! ### Calls -/

/-- Whether a call reaps the child. -/
def Call.reaps : Call → Bool
  | poll ended => ended
  | reap => true
  | _ => false

/-- Whether a call is a poll. -/
def Call.isPoll : Call → Bool
  | poll _ => true
  | _ => false

namespace Guard

/-- A child that has just been started. -/
def started : Guard := ⟨false, [.start]⟩

/-- One thing that is done with a child: a look at it, unless it is reaped, or its end. -/
inductive Next : Guard → Guard → Prop
  | look {g : Guard} (status : Except SystemError (Option ChildStatus)) (h : g.reaped = false) :
    Next g (g.look status)
  | terminate (g : Guard) : Next g g.terminate

/-- One thing after the other, and how the child stands behind each of them. -/
inductive Steps : Guard → List Guard → Guard → Prop
  | done (g : Guard) : Steps g [] g
  | next {g g' last : Guard} {gs : List Guard} (h : Next g g') (hrest : Steps g' gs last) :
    Steps g (g' :: gs) last

/-- One more thing at the end. -/
theorem Steps.concat {g g' last : Guard} {gs : List Guard} (h : Steps g gs g')
    (hlast : Next g' last) : Steps g (gs ++ [last]) last := by
  -- On the steps: what comes last stays last, whatever is put in front.
  induction h with
  | done g => exact .next hlast (.done last)
  | next hnext _ ih => exact .next hnext (ih hlast)

/-! ### The field for the reaping -/

/-- The field tells whether the child was reaped, and it was not reaped twice. -/
def Exact (g : Guard) : Prop := g.calls.countP Call.reaps = if g.reaped then 1 else 0

/-- A child that has just been started is not reaped, and its field says so. -/
theorem exact_started : started.Exact := rfl

/-- The field is set exactly if there is a call that reaps. -/
theorem Exact.reaped_iff {g : Guard} (h : g.Exact) :
    g.reaped = true ↔ ∃ c ∈ g.calls, c.reaps = true := by
  rw [← List.countP_pos_iff, h]
  cases g.reaped <;> simp

/-- A look at a child reaps it if it has ended. -/
theorem exact_look {g : Guard} (h : g.Exact) (hreaped : g.reaped = false)
    (status : Except SystemError (Option ChildStatus)) : (g.look status).Exact := by
  have hnone : g.calls.countP Call.reaps = 0 := by
    rw [h, hreaped]
    rfl
  -- Only a child that is found ended is reaped, and this is the first time.
  unfold Exact look
  split <;> simp [hnone, hreaped, Call.reaps]

/-- To terminate a child reaps it unless that is done. -/
theorem exact_terminate {g : Guard} (h : g.Exact) : g.terminate.Exact := by
  unfold Exact at h
  unfold Exact terminate
  cases hreaped : g.reaped with
  | false =>
    rw [hreaped] at h
    simp [h, Call.reaps]
  | true =>
    rw [hreaped] at h
    simp [h, Call.reaps]

/-- Whatever is done with a child, the field stays exact. -/
theorem Next.exact {g g' : Guard} (h : Next g g') (hg : g.Exact) : g'.Exact := by
  cases h with
  | look status hreaped => exact exact_look hg hreaped status
  | terminate => exact exact_terminate hg

/-- So it does over all that is done, one thing after the other. -/
theorem Steps.exact {g last : Guard} {gs : List Guard} (h : Steps g gs last) (hg : g.Exact) :
    ∀ g' ∈ g :: gs, g'.Exact := by
  induction h with
  | done g =>
    intro g' hg'
    rw [List.mem_singleton.mp hg']
    exact hg
  | next hnext _ ih =>
    intro g' hg'
    rcases List.mem_cons.mp hg' with rfl | hg'
    · exact hg
    · exact ih (hnext.exact hg) g' hg'

/-- The last of the things that are done is among them. -/
theorem Steps.last_mem {g last : Guard} {gs : List Guard} (h : Steps g gs last) :
    last ∈ g :: gs := by
  induction h with
  | done g => exact List.mem_cons_self
  | next _ _ ih => exact List.mem_cons_of_mem _ ih

/-- A child that has been terminated is reaped. -/
theorem terminate_reaped (g : Guard) : g.terminate.reaped = true := by
  unfold terminate
  cases hreaped : g.reaped with
  | false => rfl
  | true => rfl

/-! ### The last poll -/

/-- A poll was made. -/
def Polled (g : Guard) : Prop :=
  ∃ before ended after, g.calls = before ++ .poll ended :: after ∧
    ∀ c ∈ after, c.isPoll = false

/-- A poll was made, and behind the last one the group of the child was killed. -/
def Killed (g : Guard) : Prop :=
  ∃ before ended after, g.calls = before ++ .poll ended :: after ∧
    (∀ c ∈ after, c.isPoll = false) ∧ .killGroup ∈ after

/-- To look at a child is to poll it. -/
theorem polled_look (g : Guard) (status : Except SystemError (Option ChildStatus)) :
    (g.look status).Polled := by
  unfold look
  split
  · exact ⟨g.calls, true, [], rfl, nofun⟩
  · exact ⟨g.calls, false, [], rfl, nofun⟩

/-- To terminate a child is to kill its group, and no poll. -/
theorem terminate_calls (g : Guard) :
    ∃ more, g.terminate.calls = g.calls ++ .killGroup :: more ∧ ∀ c ∈ more, c.isPoll = false := by
  unfold terminate
  cases g.reaped with
  | false => exact ⟨[.killChild, .reap], rfl, by decide⟩
  | true => exact ⟨[], rfl, nofun⟩

/-- Behind a poll, to terminate a child kills its group. -/
theorem Polled.killed_terminate {g : Guard} (h : g.Polled) : g.terminate.Killed := by
  obtain ⟨before, ended, after, hcalls, hafter⟩ := h
  obtain ⟨more, hmore, hpolls⟩ := g.terminate_calls
  -- The last poll stays the last, since to terminate is no poll.
  refine ⟨before, ended, after ++ .killGroup :: more, ?_, ?_, by simp⟩
  · rw [hmore, hcalls, List.append_assoc, List.cons_append]
  · intro c hc
    rcases List.mem_append.mp hc with hc | hc
    · exact hafter c hc
    · rcases List.mem_cons.mp hc with rfl | hc
      · rfl
      · exact hpolls c hc

/-- Where the group was killed behind the last poll, a poll was made. -/
theorem Killed.polled {g : Guard} (h : g.Killed) : g.Polled := by
  obtain ⟨before, ended, after, hcalls, hafter, -⟩ := h
  exact ⟨before, ended, after, hcalls, hafter⟩

/-- **To terminate a child that was polled leaves nothing of it**: its group was killed behind the
    last poll, it was reaped once, and the field for the reaping was right all the time. -/
theorem Steps.terminate_killed {g : Guard} {gs : List Guard} (hsteps : Steps .started gs g)
    (hpolled : g.Polled) :
    g.terminate.Killed ∧ g.terminate.calls.countP Call.reaps = 1 ∧
      ∃ gs, Steps .started gs g.terminate ∧
        ∀ g' ∈ started :: gs, (g'.reaped = true ↔ ∃ c ∈ g'.calls, c.reaps = true) := by
  have hlast : Steps .started (gs ++ [g.terminate]) g.terminate := hsteps.concat (.terminate g)
  have hexact := hlast.exact exact_started
  have hcount := hexact g.terminate hlast.last_mem
  unfold Exact at hcount
  rw [g.terminate_reaped, if_pos rfl] at hcount
  exact ⟨hpolled.killed_terminate, hcount, _, hlast, fun g' hg' => (hexact g' hg').reaped_iff⟩

end Guard

/-! ### Waits and runs -/

/-- **What a wait does with the child**: it looks at it, once for each poll, and perhaps
    terminates it in the end. It comes back unless every poll finds the child running and nothing
    else stops it. -/
theorem await_steps (program : String) (l : Limits) (polls : List Poll) {g : Guard}
    (hreaped : g.reaped = false) :
    match await program l g polls with
    | none => ∀ p ∈ polls, p.status = .ok none ∧ l.stop? p = none
    | some (result, g') => (∃ gs, Guard.Steps g gs g') ∧ g'.Polled ∧
        ∀ e, result = .error e → ∃ cause, e = .lost program cause := by
  induction polls generalizing g with
  | nil =>
    unfold await
    nofun
  | cons p polls ih =>
    have hlook : Guard.Next g (g.look p.status) := .look p.status hreaped
    have hpolled : (g.look p.status).Polled := g.polled_look p.status
    have hfirst : Guard.Steps g [g.look p.status] (g.look p.status) := .next hlook (.done _)
    unfold await
    dsimp only
    -- A poll that fails, one that finds the child ended, and one that finds it running.
    cases hstatus : p.status with
    | error cause =>
      rw [hstatus] at hfirst hpolled
      refine ⟨⟨_, hfirst⟩, hpolled, fun e he => ?_⟩
      exact ⟨cause, (Except.error.inj he).symm⟩
    | ok found =>
      rw [hstatus] at hlook hfirst hpolled
      cases found with
      | some status => exact ⟨⟨_, hfirst⟩, hpolled, nofun⟩
      | none =>
        cases hstop : l.stop? p with
        | some termination =>
          have hend := hfirst.concat (.terminate (g.look (.ok none)))
          exact ⟨⟨_, hend⟩, hpolled.killed_terminate.polled, nofun⟩
        | none =>
          have hrunning : (g.look (.ok none)).reaped = false := hreaped
          have hrest := ih hrunning
          dsimp only
          cases hawait : await program l (g.look (.ok none)) polls with
          | none =>
            rw [hawait] at hrest
            intro q hq
            rcases List.mem_cons.mp hq with rfl | hq
            · exact ⟨hstatus, hstop⟩
            · exact hrest q hq
          | some ended =>
            rw [hawait] at hrest
            obtain ⟨⟨gs, hsteps⟩, hpolls, herror⟩ := hrest
            exact ⟨⟨_, .next hlook hsteps⟩, hpolls, herror⟩

/-- A run of a child that was started comes back as its wait does; the child is terminated then, and
    once more behind a wait that came to its end. -/
theorem run_of_started {program : String} {l : Limits} {a : Answers} (hstart : a.start = .ok ()) :
    run program l a = (await program l .started a.polls).map fun
      | (.error problem, g) => ⟨.error problem, g.terminate⟩
      | (.ok termination, g) => ⟨report program termination a, g.terminate.terminate⟩ := by
  rw [run, hstart]
  dsimp only
  rw [Guard.started]
  cases await program l ⟨false, [.start]⟩ a.polls with
  | none => rfl
  | some ended => obtain ⟨_ | _, g⟩ := ended <;> rfl

/-- **The last thing that a run does with its child** is to terminate it, behind a poll. -/
theorem exists_last_terminate {program : String} {l : Limits} {a : Answers} {r : RunResult}
    (hstart : a.start = .ok ()) (hrun : run program l a = some r) :
    ∃ g gs, Guard.Steps .started gs g ∧ g.Polled ∧ r.guard = g.terminate := by
  rw [run_of_started hstart, Option.map_eq_some_iff] at hrun
  obtain ⟨⟨waited, g⟩, hawait, rfl⟩ := hrun
  have hwait := await_steps program l a.polls (g := .started) rfl
  rw [hawait] at hwait
  obtain ⟨⟨gs, hsteps⟩, hpolled, -⟩ := hwait
  -- Behind a wait that came to its end the child is terminated twice, by the run and when its
  -- guard is dropped.
  cases waited with
  | error problem => exact ⟨g, gs, hsteps, hpolled, rfl⟩
  | ok termination =>
    have hagain := hsteps.concat (.terminate g)
    exact ⟨g.terminate, _, hagain, hpolled.killed_terminate.polled, rfl⟩

/-- The report of a child is refused only because one of its streams was lost. -/
theorem exists_of_report_error {program : String} {termination : Termination} {a : Answers}
    {e : EngineError} (h : report program termination a = .error e) :
    ∃ cause, e = .lost program cause := by
  have htext (c : Collected) {problem : EngineError} (hc : c.text program = .error problem) :
      ∃ cause, problem = .lost program cause := by
    cases c with
    | bytes bs => cases hc
    | failed cause => exact ⟨cause, (Except.error.inj hc).symm⟩
    | expired => cases hc
    | vanished => exact ⟨_, (Except.error.inj hc).symm⟩
  unfold report at h
  cases hout : a.stdout.text program with
  | error problem =>
    rw [hout] at h
    obtain rfl := Except.error.inj h
    exact htext a.stdout hout
  | ok out =>
    cases herr : a.stderr.text program with
    | error problem =>
      rw [hout, herr] at h
      obtain rfl := Except.error.inj h
      exact htext a.stderr herr
    | ok err =>
      rw [hout, herr] at h
      cases h

/-- A run of a child that was started has no errors but a poll or a stream that was lost. -/
theorem exists_of_result_error {program : String} {l : Limits} {a : Answers} {r : RunResult}
    (hstart : a.start = .ok ()) (hrun : run program l a = some r) {e : EngineError}
    (he : r.result = .error e) : ∃ cause, e = .lost program cause := by
  rw [run_of_started hstart, Option.map_eq_some_iff] at hrun
  obtain ⟨⟨waited, g⟩, hawait, rfl⟩ := hrun
  have hwait := await_steps program l a.polls (g := .started) rfl
  rw [hawait] at hwait
  obtain ⟨-, -, herror⟩ := hwait
  cases waited with
  | error problem =>
    obtain rfl : problem = e := Except.error.inj he
    exact herror problem rfl
  | ok termination => exact exists_of_report_error he

/-- **No run leaves its child behind.** A program that is not started is not looked after: nothing
    is called but its start, and the error tells whether the program was not found. Otherwise the
    run comes back, unless every poll finds the child running and nothing stops it, and by then:
    * the group of the child was killed behind the last poll;
    * the child was reaped exactly once;
    * at every point of the run the field for the reaping was set exactly if the child had been
      reaped;
    * the result is a report, or the error of a poll or a stream that was lost. -/
theorem run_leaves_no_child (program : String) (l : Limits) (a : Answers) :
    match a.start with
    | .error cause => run program l a = some
        ⟨.error (if cause = .notFound then .notFound program else .notStarted program cause),
          ⟨false, [.start]⟩⟩
    | .ok () =>
      match run program l a with
      | none => ∀ p ∈ a.polls, p.status = .ok none ∧ l.stop? p = none
      | some r =>
        (∃ before ended after, r.guard.calls = before ++ .poll ended :: after ∧
          (∀ c ∈ after, c.isPoll = false) ∧ .killGroup ∈ after) ∧
        r.guard.calls.countP Call.reaps = 1 ∧
        (∃ gs, Guard.Steps .started gs r.guard ∧
          ∀ g ∈ Guard.started :: gs, (g.reaped = true ↔ ∃ c ∈ g.calls, c.reaps = true)) ∧
        ∀ e, r.result = .error e → ∃ cause, e = .lost program cause := by
  cases hstart : a.start with
  | error cause =>
    unfold run
    rw [hstart]
    rfl
  | ok started =>
    dsimp only
    cases hrun : run program l a with
    | none =>
      rw [run_of_started hstart, Option.map_eq_none_iff] at hrun
      have hwait := await_steps program l a.polls (g := .started) rfl
      rw [hrun] at hwait
      exact hwait
    | some r =>
      -- Everything about the child is about how its guard was terminated last.
      obtain ⟨g, gs, hsteps, hpolled, hguard⟩ := exists_last_terminate hstart hrun
      obtain ⟨hkilled, hreaped, hguards⟩ := hsteps.terminate_killed hpolled
      rw [← hguard] at hkilled hreaped hguards
      refine ⟨hkilled, hreaped, hguards, fun e he => ?_⟩
      exact exists_of_result_error hstart hrun he

end ZoneAccess.Child

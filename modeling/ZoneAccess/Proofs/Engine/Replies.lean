import ZoneAccess.Engine.Script

namespace ZoneAccess

/-!
# What an engine replies

An engine that is asked for one invocation after the other, and what that leaves at a desk.

* `Engine.replies`, `Engine.after` — the replies, and the state of the engine behind them;
  before each invocation it is told whether an interrupt has been raised by then;
* `Desk.repliesTo`, `Desk.raisedBehind` — the replies to invocations from a desk, and
  whether an interrupt has been raised by the end of them;
* `Desk.Worked` — a desk behind some invocations: what they did to the engine, to the
  record of invocations, to the reactions and to the raised flag. Every launch, and every
  series of launches, is work in this sense (`Desk.worked_launch`, `Desk.Worked.trans`);
* `Engine.Quiet` — an engine that sends no interrupts from some state on.
-/

variable {σ α : Type}

/-! ### A series of invocations -/

/-- Whether an interrupt was delivered with one of the replies. -/
def Reply.anyInterrupted (replies : List Reply) : Bool := replies.any (·.interrupted)

/-- With no replies comes no interrupt. -/
@[simp] theorem Reply.anyInterrupted_nil : anyInterrupted [] = false := rfl

/-- An interrupt comes with the first of some replies or with the rest. -/
@[simp] theorem Reply.anyInterrupted_cons (reply : Reply) (replies : List Reply) :
    anyInterrupted (reply :: replies) = (reply.interrupted || anyInterrupted replies) := rfl

/-- An interrupt comes with the early replies or with the late ones. -/
@[simp] theorem Reply.anyInterrupted_append (replies others : List Reply) :
    anyInterrupted (replies ++ others) = (anyInterrupted replies || anyInterrupted others) :=
  List.any_append

namespace Engine

/-- The replies of an engine to invocations, one after the other; `raised` says whether an
    interrupt has been raised before. -/
def replies (e : Engine σ) : List Invocation → Bool → σ → List Reply
  | [], _, _ => []
  | i :: is, raised, s =>
    let (reply, s) := e.launch i raised s
    reply :: replies e is (raised || reply.interrupted) s

/-- The state of an engine behind invocations. -/
def after (e : Engine σ) : List Invocation → Bool → σ → σ
  | [], _, s => s
  | i :: is, raised, s =>
    let (reply, s) := e.launch i raised s
    after e is (raised || reply.interrupted) s

variable (e : Engine σ) (i : Invocation) (is js : List Invocation) (raised : Bool) (s : σ)

/-- To be asked for nothing brings no replies. -/
@[simp] theorem replies_nil : e.replies [] raised s = [] := rfl

/-- It leaves the engine as it is. -/
@[simp] theorem after_nil : e.after [] raised s = s := rfl

/-- The first reply, then those of the engine that the first invocation leaves. -/
theorem replies_cons :
    e.replies (i :: is) raised s = (e.launch i raised s).1 ::
      e.replies is (raised || (e.launch i raised s).1.interrupted) (e.launch i raised s).2 := rfl

/-- The engine behind a series is the one behind its rest, from where the first invocation leaves
    it. -/
theorem after_cons :
    e.after (i :: is) raised s
      = e.after is (raised || (e.launch i raised s).1.interrupted) (e.launch i raised s).2 := rfl

/-- Each invocation has its reply. -/
@[simp] theorem length_replies : (e.replies is raised s).length = is.length := by
  induction is generalizing raised s with
  | nil => rfl
  | cons i is ih => simp [replies_cons, ih]

/-- The replies to a series are those to its first part, then those to the rest. -/
theorem replies_append :
    e.replies (is ++ js) raised s = e.replies is raised s ++
      e.replies js (raised || Reply.anyInterrupted (e.replies is raised s))
        (e.after is raised s) := by
  -- On the first part, from every state: each invocation hands on its own engine and flag.
  induction is generalizing raised s with
  | nil => simp
  | cons i is ih =>
    rw [List.cons_append, replies_cons, ih, replies_cons, after_cons, Reply.anyInterrupted_cons,
      Bool.or_assoc, List.cons_append]

/-- The engine behind a series is the one behind its last part, from where the first part leaves it.
    -/
theorem after_append :
    e.after (is ++ js) raised s
      = e.after js (raised || Reply.anyInterrupted (e.replies is raised s))
          (e.after is raised s) := by
  induction is generalizing raised s with
  | nil => simp
  | cons i is ih =>
    rw [List.cons_append, after_cons, ih, replies_cons, after_cons, Reply.anyInterrupted_cons,
      Bool.or_assoc]

end Engine

/-! ### Work at a desk -/

namespace Desk

/-- The replies to invocations that are made from a desk. -/
def repliesTo (d : Desk σ) (e : Engine σ) (made : List Invocation) : List Reply :=
  e.replies made d.interrupts.raised d.engine

/-- Each invocation from a desk has its reply. -/
@[simp] theorem length_repliesTo (d : Desk σ) (e : Engine σ) (made : List Invocation) :
    (d.repliesTo e made).length = made.length :=
  e.length_replies made _ _

/-- Whether, behind invocations that are made from a desk, an interrupt has been raised. -/
def raisedBehind (d : Desk σ) (e : Engine σ) (made : List Invocation) : Bool :=
  d.interrupts.raised || Reply.anyInterrupted (d.repliesTo e made)

/-- The desk `d'` is `d` behind the invocations `made`, all of them made while interrupts
    cancel. Of the interrupts, only the raised flag counts. -/
structure Worked (e : Engine σ) (made : List Invocation) (d d' : Desk σ) : Prop where
  engine : d'.engine = e.after made d.interrupts.raised d.engine
  raised : d'.interrupts.raised = d.raisedBehind e made
  invocations : d'.invocations = d.invocations ++ made
  actions : d'.actions
    = d.actions ++ ((d.repliesTo e made).filter (·.interrupted)).map fun _ => .cancel

variable {e : Engine σ} {d d' d'' : Desk σ} {made next : List Invocation}

/-- Behind no invocations an interrupt has been raised if it had been before. -/
@[simp] theorem raisedBehind_nil (d : Desk σ) (e : Engine σ) :
    d.raisedBehind e [] = d.interrupts.raised := by
  simp [raisedBehind, repliesTo]

/-- What has not been raised by the end was not raised on the way. -/
theorem raisedBehind_of_append {early late : List Invocation}
    (h : d.raisedBehind e (early ++ late) = false) : d.raisedBehind e early = false := by
  rw [raisedBehind, repliesTo, Bool.or_eq_false_iff] at h ⊢
  rw [e.replies_append, Reply.anyInterrupted_append, Bool.or_eq_false_iff] at h
  exact ⟨h.1, h.2.1⟩

/-- To do nothing at a desk is work. -/
theorem Worked.refl (e : Engine σ) (d : Desk σ) : Worked e [] d d where
  engine := rfl
  raised := (d.raisedBehind_nil e).symm
  invocations := by simp
  actions := by simp [repliesTo]

/-- The replies to a series are those to its first part, then those from where that ended. -/
theorem Worked.repliesTo_append (h : Worked e made d d') (next : List Invocation) :
    d.repliesTo e (made ++ next) = d.repliesTo e made ++ d'.repliesTo e next := by
  rw [repliesTo, e.replies_append, repliesTo, repliesTo, h.raised, h.engine, raisedBehind,
    repliesTo]

/-- The replies to what comes behind some invocations. -/
theorem Worked.drop_repliesTo (h : Worked e made d d') (next : List Invocation) :
    (d.repliesTo e (made ++ next)).drop made.length = d'.repliesTo e next := by
  rw [h.repliesTo_append, List.drop_left' (d.length_repliesTo e made)]

/-- Whether an interrupt has been raised by the end can be asked behind the first part. -/
theorem Worked.raisedBehind_append (h : Worked e made d d') (next : List Invocation) :
    d.raisedBehind e (made ++ next) = d'.raisedBehind e next := by
  rw [raisedBehind, h.repliesTo_append, Reply.anyInterrupted_append, ← Bool.or_assoc, raisedBehind,
    h.raised, raisedBehind]

/-- Work goes on from where it was left. -/
theorem Worked.trans (h : Worked e made d d') (h' : Worked e next d' d'') :
    Worked e (made ++ next) d d'' where
  engine := by
    rw [h'.engine, h.engine, h.raised, raisedBehind, repliesTo, e.after_append]
  raised := by rw [h'.raised, h.raisedBehind_append]
  invocations := by rw [h'.invocations, h.invocations, List.append_assoc]
  actions := by
    rw [h'.actions, h.actions, h.repliesTo_append, List.filter_append, List.map_append,
      List.append_assoc]

/-- A launch while the engine is at work is work, and does not end it. -/
theorem worked_launch (e : Engine σ) (i : Invocation) {d : Desk σ}
    (h : d.interrupts.idle = false) :
    Worked e [i] d (d.launch e i).2 ∧ (d.launch e i).2.interrupts.idle = false := by
  unfold launch
  -- An interrupt finds the desk busy, so that it cancels.
  cases hreply : e.launch i d.interrupts.raised d.engine with
  | mk reply engine =>
    cases hi : reply.interrupted with
    | true =>
      refine ⟨⟨?_, ?_, ?_, ?_⟩, ?_⟩ <;>
        simp [Engine.after_cons, Engine.replies_cons, raisedBehind, repliesTo, hreply, hi, h,
          interrupt, Interrupts.react, Interrupts.action]
    | false =>
      refine ⟨⟨?_, ?_, ?_, ?_⟩, ?_⟩ <;>
        simp [Engine.after_cons, Engine.replies_cons, raisedBehind, repliesTo, hreply, hi, h]

/-- The result of a launch is that of the engine's reply. -/
theorem launch_result (e : Engine σ) (i : Invocation) (d : Desk σ) :
    (d.launch e i).1 = (e.launch i d.interrupts.raised d.engine).1.result := rfl

/-- A launch goes on record, whatever comes of it. -/
theorem launch_invocations (e : Engine σ) (i : Invocation) (d : Desk σ) :
    (d.launch e i).2.invocations = d.invocations ++ [i] := by
  unfold launch
  dsimp only
  split <;> rfl

/-- A desk at which the engine is at work. -/
def busy (d : Desk σ) : Desk σ := { d with interrupts := d.interrupts.beginWork }

/-- What is done while busy is done at a busy desk. -/
theorem whileBusy_fst (work : Desk σ → α × Desk σ) (d : Desk σ) :
    (whileBusy work d).1 = (work d.busy).1 := rfl

/-- What is invoked while busy is what is invoked at a busy desk. -/
theorem whileBusy_invocations (work : Desk σ → α × Desk σ) (d : Desk σ) :
    (whileBusy work d).2.invocations = (work d.busy).2.invocations := rfl

/-- Work that is done while busy is work of the whole section. -/
theorem Worked.whileBusy {work : Desk σ → α × Desk σ}
    (h : Worked e made d.busy (work d.busy).2) : Worked e made d (Desk.whileBusy work d).2 :=
  ⟨h.engine, h.raised, h.invocations, h.actions⟩

end Desk

/-! ### Engines that send no interrupts -/

/-- From this state on an engine sends no interrupt, whatever it is asked for. -/
def Engine.Quiet (e : Engine σ) (s : σ) : Prop :=
  ∀ is, Reply.anyInterrupted (e.replies is false s) = false

/-- From a desk with a quiet engine, no interrupt is raised. -/
theorem Engine.Quiet.raisedBehind {e : Engine σ} {d : Desk σ} (h : e.Quiet d.engine)
    (hraised : d.interrupts.raised = false) (made : List Invocation) :
    d.raisedBehind e made = false := by
  rw [Desk.raisedBehind, Desk.repliesTo, hraised, h made, Bool.or_false]

/-- A script whose entries bring no interrupts is quiet, also behind its end. -/
theorem Script.quiet {script : Script} (h : ∀ entry ∈ script, entry.interrupted = false) :
    Script.engine.Quiet script := by
  intro is
  induction is generalizing script with
  | nil => rfl
  | cons i is ih =>
    rw [Engine.replies_cons, Reply.anyInterrupted_cons, Bool.false_or, Bool.or_eq_false_iff]
    cases script with
    | nil =>
      -- Behind its end a script has no interrupts left.
      exact ⟨rfl, ih h⟩
    | cons entry rest =>
      have hentry : entry.interrupted = false := h entry List.mem_cons_self
      refine ⟨hentry, ?_⟩
      show Reply.anyInterrupted (Script.engine.replies is entry.interrupted rest) = false
      rw [hentry]
      exact ih fun other ho => h other (List.mem_cons_of_mem entry ho)

end ZoneAccess

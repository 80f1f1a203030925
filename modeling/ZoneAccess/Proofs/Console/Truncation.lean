import ZoneAccess.Proofs.Console.Performance

namespace ZoneAccess

/-!
# Streams that fill up

What an act comes to when its streams take only so many bytes, compared with streams that take
everything.

* `Console.limited` — a console with limits in place of streams that take everything;
* `Console.Fits`, `Console.Filled` — what was written is within the limits, or has come up to
  one of them;
* `Console.Extends` — a console on which more was written and more was invoked;
* `Act.Truncates` — an act that is at most cut short by limits: within them nothing changes;
  otherwise it ends in a failure, and what it has written and invoked is the first part of what
  it would have without them;
* `Act.Truncates.bind` — acts of this kind, one after the other, are of this kind together.
-/

variable {σ α β : Type}

/-! ### One stream -/

namespace Sink

variable {stored bytes : Bytes} {n : Nat}

/-- A stream with limited room takes the first part of what is written, which is all of it exactly
    if there is room for it. -/
theorem put_limited (stored bytes : Bytes) (room : Nat) :
    (Sink.mk stored (some room)).put bytes
      = (decide (bytes.length ≤ room),
          ⟨stored ++ bytes.take room, some (room - bytes.length)⟩) := by
  by_cases h : bytes.length ≤ room
  · simp [put, h, List.take_of_length_le h]
  · simp [put, h, Nat.sub_eq_zero_of_le (Nat.le_of_not_le h)]

/-- A stream that takes `n` bytes in all takes what is within them. -/
theorem put_of_le (h : (stored ++ bytes).length ≤ n) :
    (Sink.mk stored (some (n - stored.length))).put bytes
      = (true, ⟨stored ++ bytes, some (n - (stored ++ bytes).length)⟩) := by
  rw [List.length_append] at h
  have hroom : bytes.length ≤ n - stored.length := by omega
  rw [put_limited, decide_eq_true hroom, List.take_of_length_le hroom, List.length_append,
    Nat.sub_add_eq]

/-- Of what is not, it takes the first part, and is full then. -/
theorem put_of_lt (hstored : stored.length ≤ n) (h : ¬(stored ++ bytes).length ≤ n) :
    ∃ kept, (Sink.mk stored (some (n - stored.length))).put bytes = (false, ⟨kept, some 0⟩) ∧
      kept <+: stored ++ bytes ∧ kept.length = n := by
  rw [List.length_append] at h
  have hroom : ¬bytes.length ≤ n - stored.length := by omega
  -- What is left of the room is filled with the first part of the text.
  refine ⟨stored ++ bytes.take (n - stored.length), ?_, ?_, ?_⟩
  · rw [put_limited, decide_eq_false hroom, Nat.sub_eq_zero_of_le (Nat.le_of_not_le hroom)]
  · exact (List.prefix_append_right_inj stored).mpr (List.take_prefix _ _)
  · rw [List.length_append, List.length_take]
    omega

end Sink

/-! ### Consoles with limits -/

namespace Console

/-- A console whose streams take everything. -/
structure Unlimited (c : Console σ) : Prop where
  out : c.out.room = none
  err : c.err.room = none

/-- A console with streams that have taken the same, but take no more than `n` and `m` bytes in
    all. -/
def limited (n m : Nat) (c : Console σ) : Console σ where
  desk := c.desk
  out := ⟨c.out.stored, some (n - c.out.stored.length)⟩
  err := ⟨c.err.stored, some (m - c.err.stored.length)⟩

/-- What the streams have taken is within limits. -/
structure Fits (n m : Nat) (c : Console σ) : Prop where
  out : c.out.stored.length ≤ n
  err : c.err.stored.length ≤ m

/-- What one of the streams has taken comes up to its limit. -/
def Filled (n m : Nat) (c : Console σ) : Prop :=
  c.out.stored.length = n ∨ c.err.stored.length = m

/-- The console `c'` is `c` with more written and more invoked. -/
structure Extends (c c' : Console σ) : Prop where
  out : c.out.stored <+: c'.out.stored
  err : c.err.stored <+: c'.err.stored
  invocations : c.desk.invocations <+: c'.desk.invocations

variable {c c' c'' : Console σ} {n m : Nat}

/-- On a console as it is, nothing more was written or invoked. -/
theorem Extends.refl (c : Console σ) : c.Extends c :=
  ⟨List.prefix_refl _, List.prefix_refl _, List.prefix_refl _⟩

/-- More upon more is more. -/
theorem Extends.trans (h : c.Extends c') (h' : c'.Extends c'') : c.Extends c'' :=
  ⟨h.out.trans h'.out, h.err.trans h'.err, h.invocations.trans h'.invocations⟩

/-- What is within limits in the end was so before. -/
theorem Extends.fits (h : c.Extends c') (hfits : c'.Fits n m) : c.Fits n m :=
  ⟨Nat.le_trans h.out.length_le hfits.out, Nat.le_trans h.err.length_le hfits.err⟩

end Console

/-! ### Acts that limits cut short -/

/-- An act, done from a console whose streams take everything, writes and invokes more and more.
    Limits that all of it is within make no difference. Otherwise it ends in a failure behind a
    first part of what it would have written and invoked, with one of the streams full. -/
structure Act.TruncatesFrom (x : Act σ α) (failure : RunError → Prop) (c : Console σ) : Prop where
  unlimited : (x.perform c).2.Unlimited
  grows : c.Extends (x.perform c).2
  same : ∀ n m, (x.perform c).2.Fits n m →
    x.perform (c.limited n m) = ((x.perform c).1, (x.perform c).2.limited n m)
  cut : ∀ n m, c.Fits n m → ¬(x.perform c).2.Fits n m →
    ∃ problem, failure problem ∧ (x.perform (c.limited n m)).1 = .error problem ∧
      (x.perform (c.limited n m)).2.Extends (x.perform c).2 ∧
      (x.perform (c.limited n m)).2.Filled n m

/-- An act that is at most cut short by limits, wherever it is done; `failure` says what it may
    end in. -/
def Act.Truncates (x : Act σ α) (failure : RunError → Prop) : Prop :=
  ∀ c : Console σ, c.Unlimited → x.TruncatesFrom failure c

namespace Act

variable {failure : RunError → Prop}

/-- What is cut short by some failures is cut short by any that include them. -/
theorem Truncates.mono {x : Act σ α} {failure' : RunError → Prop} (h : x.Truncates failure)
    (himp : ∀ problem, failure problem → failure' problem) : x.Truncates failure' := by
  intro c hc
  refine ⟨(h c hc).unlimited, (h c hc).grows, (h c hc).same, fun n m hfits hlong => ?_⟩
  obtain ⟨problem, hproblem, hcut⟩ := (h c hc).cut n m hfits hlong
  exact ⟨problem, himp problem hproblem, hcut⟩

/-- Work at the desk writes nothing, so that limits make no difference to it. -/
theorem truncates_atDesk {work : Desk σ → α × Desk σ}
    (hwork : ∀ d, d.invocations <+: (work d).2.invocations) : (atDesk work).Truncates failure := by
  intro c hc
  refine ⟨⟨hc.out, hc.err⟩, ⟨List.prefix_refl _, List.prefix_refl _, hwork c.desk⟩,
    fun n m _ => rfl, fun n m hfits hlong => ?_⟩
  exact absurd ⟨hfits.out, hfits.err⟩ hlong

/-- To look at the interrupts is not cut short. -/
theorem truncates_interrupts : (interrupts : Act σ Interrupts).Truncates failure :=
  truncates_atDesk fun _ => List.prefix_refl _

/-- What was worked out without the console is not cut short. -/
theorem truncates_lift (result : Except RunError α) :
    (liftM result : Act σ α).Truncates failure := by
  intro c hc
  refine ⟨hc, .refl c, fun n m _ => rfl, fun n m hfits hlong => ?_⟩
  exact absurd hfits hlong

/-- To do nothing is not cut short. -/
theorem truncates_pure (a : α) : (pure a : Act σ α).Truncates failure := truncates_lift (.ok a)

/-- An error is the same with limits and without. -/
theorem truncates_throw (problem : RunError) : (throw problem : Act σ α).Truncates failure :=
  truncates_lift (.error problem)

/-- A write to stdout is cut short where the stream is full, and fails then. -/
theorem truncates_sayOr (problem : SystemError → RunError) (text : String) :
    (sayOr problem text : Act σ Unit).Truncates (· = problem Sink.full) := by
  intro c hc
  obtain ⟨desk, ⟨out, outRoom⟩, err⟩ := c
  obtain rfl : outRoom = none := hc.out
  -- A stream that takes everything has behind the write what it had before, and the text.
  refine ⟨⟨rfl, hc.err⟩, ⟨List.prefix_append _ _, List.prefix_refl _, List.prefix_refl _⟩,
    fun n m hfits => ?_, fun n m hfits hlong => ?_⟩
  · -- Within the limits the stream has room for all of it.
    have hput := Sink.put_of_le hfits.out
    rw [perform_sayOr, Console.limited, hput]
    rfl
  · -- Only stdout has grown, so it is the stream that is past its limit.
    have hout : ¬(out ++ Utf8.encode text).length ≤ n := fun h => hlong ⟨h, hfits.err⟩
    obtain ⟨kept, hput, hkept, hfull⟩ := Sink.put_of_lt hfits.out hout
    rw [perform_sayOr, Console.limited, hput]
    exact ⟨_, rfl, rfl, ⟨hkept, List.prefix_refl _, List.prefix_refl _⟩, .inl hfull⟩

/-- Text for stdout is cut short by a failure of output. -/
theorem truncates_say (text : String) :
    (say text : Act σ Unit).Truncates (· = .writeOutput Sink.full) :=
  truncates_sayOr .writeOutput text

/-- So is a write to stderr. -/
theorem truncates_warn (text : String) :
    (warn text : Act σ Unit).Truncates (· = .writeOutput Sink.full) := by
  intro c hc
  obtain ⟨desk, out, ⟨err, errRoom⟩⟩ := c
  obtain rfl : errRoom = none := hc.err
  refine ⟨⟨hc.out, rfl⟩, ⟨List.prefix_refl _, List.prefix_append _ _, List.prefix_refl _⟩,
    fun n m hfits => ?_, fun n m hfits hlong => ?_⟩
  · have hput := Sink.put_of_le hfits.err
    rw [perform_warn, Console.limited, hput]
    rfl
  · have herr : ¬(err ++ Utf8.encode text).length ≤ m := fun h => hlong ⟨hfits.out, h⟩
    obtain ⟨kept, hput, hkept, hfull⟩ := Sink.put_of_lt hfits.err herr
    rw [perform_warn, Console.limited, hput]
    exact ⟨_, rfl, rfl, ⟨List.prefix_refl _, hkept, List.prefix_refl _⟩, .inr hfull⟩

/-! ### One after the other -/

/-- Behind an act that succeeds, the next one is done. -/
theorem perform_bind_of_ok {x : Act σ α} {c c' : Console σ} {a : α}
    (h : x.perform c = (.ok a, c')) (f : α → Act σ β) :
    (x >>= f).perform c = (f a).perform c' := by
  rw [perform_bind, h]

/-- Behind one that fails, it is not. -/
theorem perform_bind_of_error {x : Act σ α} {c : Console σ} {problem : RunError}
    (h : (x.perform c).1 = .error problem) (f : α → Act σ β) :
    (x >>= f).perform c = (.error problem, (x.perform c).2) := by
  rw [perform_bind]
  cases hrun : x.perform c with
  | mk result c' =>
    rw [hrun] at h
    obtain rfl : result = .error problem := h
    rfl

/-- **Acts that limits cut short do so together**: if the first is cut short, the second is not
    begun. -/
theorem Truncates.bind {x : Act σ α} (hx : x.Truncates failure) {f : α → Act σ β}
    (hf : ∀ a, (f a).Truncates failure) : (x >>= f).Truncates failure := by
  intro c hc
  obtain ⟨hunlimited, hgrows, hsame, hcut⟩ := hx c hc
  cases hrun : x.perform c with
  | mk result c' =>
    rw [hrun] at hunlimited hgrows hsame hcut
    cases result with
    | error problem =>
      -- The first act fails even without limits, and the second is not reached in any run.
      have hbind : (x >>= f).perform c = (.error problem, c') := by
        rw [perform_bind_of_error (congrArg Prod.fst hrun), hrun]
      refine ⟨?_, ?_, fun n m hfits => ?_, fun n m hfits hlong => ?_⟩
      · rw [hbind]
        exact hunlimited
      · rw [hbind]
        exact hgrows
      · rw [hbind] at hfits ⊢
        rw [perform_bind_of_error (congrArg Prod.fst (hsame n m hfits)), hsame n m hfits]
      · rw [hbind] at hlong ⊢
        obtain ⟨problem', hproblem, hresult, hpart⟩ := hcut n m hfits hlong
        rw [perform_bind_of_error hresult]
        exact ⟨problem', hproblem, rfl, hpart⟩
    | ok a =>
      have hbind : (x >>= f).perform c = (f a).perform c' := perform_bind_of_ok hrun f
      -- Limits that the whole is within are limits that the first act is within, as streams only
      -- grow.
      have hnext := hf a c' hunlimited
      refine ⟨?_, ?_, fun n m hfits => ?_, fun n m hfits hlong => ?_⟩
      · rw [hbind]
        exact hnext.unlimited
      · rw [hbind]
        exact hgrows.trans hnext.grows
      · rw [hbind] at hfits ⊢
        rw [perform_bind_of_ok (hsame n m (hnext.grows.fits hfits)), hnext.same n m hfits]
      · rw [hbind] at hlong ⊢
        -- Either the first act is within the limits, or it is the one that is cut short.
        by_cases hfirst : c'.Fits n m
        · rw [perform_bind_of_ok (hsame n m hfirst)]
          exact hnext.cut n m hfirst hlong
        · obtain ⟨problem, hproblem, hresult, hextends, hfilled⟩ := hcut n m hfits hfirst
          rw [perform_bind_of_error hresult]
          exact ⟨problem, hproblem, rfl, hextends.trans hnext.grows, hfilled⟩

end Act

end ZoneAccess

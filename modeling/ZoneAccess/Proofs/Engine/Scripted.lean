import ZoneAccess.Engine.Script
import ZoneAccess.Proofs.Engine.Replies

namespace ZoneAccess

/-!
# Work with a scripted engine

An engine whose replies are laid down in advance, one entry for each invocation, and work that
uses it through launches only.

* `Engine.scripted` — the engine, for entries of any kind; `Script.engine_eq_scripted` says that a
  `Script` is one;
* `SameEntries` — two scripts begin with the same entries, or end at the same place;
* `Desk.Took` — a desk behind some invocations: an entry was taken for each, and each is on record;
* `Desk.Confined` — work that depends on nothing but the entries it takes; `Confined.bind` puts
  such work together.
-/

variable {α β γ : Type}

/-! ### The engine -/

/-- The engine that answers each invocation from the next entry of a script, and with `none` behind
    the last. An interrupt that was raised before makes no difference to it. -/
def Engine.scripted (answer : Invocation → Option α → Reply) : Engine (List α) where
  launch i _ script := (answer i script.head?, script.tail)

/-- The answer of a script to an invocation. -/
def ScriptEntry.answer (i : Invocation) : Option ScriptEntry → Reply
  | none => ⟨false, .ok Script.exhausted⟩
  | some entry => ⟨entry.interrupted, entry.ending.result i.program⟩

/-- The engine of a script is a scripted one. -/
theorem Script.engine_eq_scripted : Script.engine = Engine.scripted ScriptEntry.answer := by
  have hlaunch : Script.engine.launch = (Engine.scripted ScriptEntry.answer).launch := by
    funext i raised script
    cases script <;> rfl
  exact congrArg Engine.mk hlaunch

/-! ### Entries in common -/

/-- The first `n` entries of two scripts are the same, as far as there are any. -/
def SameEntries (n : Nat) (script script' : List α) : Prop := ∀ k < n, script'[k]? = script[k]?

/-- Equal scripts have the same entries, however many are looked at. -/
theorem SameEntries.of_eq {script script' : List α} (h : script' = script) (n : Nat) :
    SameEntries n script script' :=
  fun k _ => by rw [h]

/-- Scripts with the same entries have the same first one, if one is looked at. -/
theorem SameEntries.head? {n : Nat} {script script' : List α}
    (h : SameEntries (n + 1) script script') : script'.head? = script.head? := by
  rw [List.head?_eq_getElem?, List.head?_eq_getElem?, h 0 (Nat.succ_pos n)]

/-- Scripts that agree in more entries agree in fewer. -/
theorem SameEntries.mono {n m : Nat} {script script' : List α} (h : SameEntries n script script')
    (hle : m ≤ n) : SameEntries m script script' :=
  fun k hk => h k (Nat.lt_of_lt_of_le hk hle)

/-- What is left of them behind some entries is the same, too. -/
theorem SameEntries.drop {n m : Nat} {script script' : List α}
    (h : SameEntries (n + m) script script') : SameEntries m (script.drop n) (script'.drop n) := by
  intro k hk
  rw [List.getElem?_drop, List.getElem?_drop, h (n + k) (Nat.add_lt_add_left hk n)]

/-- A script without what stands behind its first entries. -/
theorem sameEntries_take (n : Nat) (script : List α) : SameEntries n script (script.take n) :=
  fun _ hk => List.getElem?_take_of_lt hk

/-- A script from which some entries behind the first are taken out. -/
theorem sameEntries_take_append_drop (n m : Nat) (script : List α) :
    SameEntries n script (script.take n ++ script.drop (n + m)) := by
  intro k hk
  by_cases h : k < script.length
  · rw [List.getElem?_append_left (by rw [List.length_take]; omega), List.getElem?_take_of_lt hk]
  · -- The script ends before the place where entries were taken out.
    have hend : script.length ≤ n + m := by omega
    rw [List.drop_eq_nil_of_le hend, List.append_nil, List.getElem?_take_of_lt hk]

/-- Behind the first entries, what is left of such a script is what stands behind the gap. -/
theorem drop_take_append_drop (n m : Nat) (script : List α) :
    (script.take n ++ script.drop (n + m)).drop n = script.drop (n + m) := by
  by_cases h : n ≤ script.length
  · exact List.drop_left' (List.length_take_of_le h)
  · have hend : script.length ≤ n := Nat.le_of_not_le h
    rw [List.drop_eq_nil_of_le (Nat.le_trans hend (Nat.le_add_right n m)), List.append_nil]
    exact List.drop_eq_nil_of_le (Nat.le_trans (List.length_take_le' n script) hend)

/-! ### Confined work -/

namespace Desk

/-- The desk `d'` is `d` behind the invocations `made`: each is on record, and each has taken an
    entry of the script. -/
structure Took (made : List Invocation) (d d' : Desk (List α)) : Prop where
  engine : d'.engine = d.engine.drop made.length
  invocations : d'.invocations = d.invocations ++ made

variable {made next : List Invocation} {d d' d'' : Desk (List α)}

/-- To do nothing takes nothing from the script. -/
theorem Took.refl (d : Desk (List α)) : Took [] d d := ⟨rfl, (List.append_nil _).symm⟩

/-- What is taken in two turns is taken one after the other. -/
theorem Took.trans (h : Took made d d') (h' : Took next d' d'') : Took (made ++ next) d d'' where
  engine := by rw [h'.engine, h.engine, List.drop_drop, List.length_append]
  invocations := by rw [h'.invocations, h.invocations, List.append_assoc]

/-- What is new on the record. -/
theorem Took.drop_invocations (h : Took made d d') :
    d'.invocations.drop d.invocations.length = made := by
  rw [h.invocations, List.drop_left]

/-- Work depends on nothing but the entries that it takes: wherever the script has the same
    entries in these places, it has the same result and makes the same invocations. -/
def Confined (work : Desk (List α) → β × Desk (List α)) : Prop :=
  ∀ d, ∃ made, Took made d (work d).2 ∧
    ∀ d', SameEntries made.length d.engine d'.engine →
      (work d').1 = (work d).1 ∧ Took made d' (work d').2

/-- What does not look at the desk is confined. -/
theorem Confined.pure (b : β) : Confined fun d : Desk (List α) => (b, d) :=
  fun d => ⟨[], Took.refl d, fun d' _ => ⟨rfl, Took.refl d'⟩⟩

/-- Confined work may decide how to go on by its result. -/
theorem Confined.bind {work : Desk (List α) → β × Desk (List α)}
    {rest : β → Desk (List α) → γ × Desk (List α)} (hwork : Confined work)
    (hrest : ∀ b, Confined (rest b)) :
    Confined fun d =>
      let (b, d) := work d
      rest b d := by
  intro d
  obtain ⟨made, htook, hsame⟩ := hwork d
  obtain ⟨next, htook', hsame'⟩ := hrest (work d).1 (work d).2
  refine ⟨made ++ next, htook.trans htook', fun d' hentries => ?_⟩
  rw [List.length_append] at hentries
  obtain ⟨hresult, hmade⟩ := hsame d' (hentries.mono (Nat.le_add_right _ _))
  -- Behind the first part, the scripts still have the entries in common that the second takes.
  have hleft : SameEntries next.length (work d).2.engine (work d').2.engine := by
    rw [htook.engine, hmade.engine]
    exact hentries.drop
  obtain ⟨hresult', hmade'⟩ := hsame' (work d').2 hleft
  show (rest (work d').1 (work d').2).1 = _ ∧ Took _ d' (rest (work d').1 (work d').2).2
  rw [hresult]
  exact ⟨hresult', hmade.trans hmade'⟩

/-- A launch is confined: it takes one entry. -/
theorem confined_launch (answer : Invocation → Option α → Reply) (i : Invocation) :
    Confined (Desk.launch (Engine.scripted answer) i) := by
  have htook : ∀ d, Took [i] d (Desk.launch (Engine.scripted answer) i d).2 := fun d => by
    refine ⟨?_, launch_invocations _ i d⟩
    unfold launch
    dsimp only
    -- With or without an interrupt, one entry is taken.
    split <;> exact List.drop_one.symm
  refine fun d => ⟨[i], htook d, fun d' hentries => ⟨?_, htook d'⟩⟩
  rw [launch_result, launch_result]
  show (answer i d'.engine.head?).result = (answer i d.engine.head?).result
  rw [hentries.head?]

end Desk

end ZoneAccess

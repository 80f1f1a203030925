import ZoneAccess.Interrupts

namespace ZoneAccess.Interrupts

/-!
# Sections of work inside one another

Steps written out as what happens to the interrupts, one event after the other, and what an
interrupt does at every moment between two events.

* `Event`, `Step.allEvents` — a session begins, an interrupt arrives, a section of work begins or
  ends; and the events of some steps;
* `performAll_eq` — steps are performed as their events are met one after the other;
* `openSections` — how many sections are open at a moment;
* `SectionRuns`, `EndedInside` — what happened last to any section: one began, or one ended while
  another was still open;
* `raised_stateAfter`, `inSession_stateAfter`, `idle_stateAfter_fresh` — what the state says at any
  moment;
* `reaction_at` — what an interrupt does at any moment: it cancels the work of an open section,
  unless the last section that ended was inside of it and none has begun since. Then, and when no
  section is open, it says farewell or aborts.
-/

/-- What happens to the interrupts. -/
inductive Event
  | enterSession
  | react
  | sectionBegins
  | sectionEnds
  deriving DecidableEq

mutual

/-- The events of a step, in order. -/
def Step.events : Step → List Event
  | .enterSession => [.enterSession]
  | .react => [.react]
  | .whileBusy body => .sectionBegins :: (Step.allEvents body ++ [.sectionEnds])

/-- The events of steps one after the other. -/
def Step.allEvents : List Step → List Event
  | [] => []
  | step :: steps => step.events ++ Step.allEvents steps

end

/-- The state behind an event. -/
def meet (i : Interrupts) : Event → Interrupts
  | .enterSession => i.enterSession
  | .react => i.react.2
  | .sectionBegins => i.beginWork
  | .sectionEnds => i.endWork

/-- The state behind some events. -/
def stateAfter (i : Interrupts) (events : List Event) : Interrupts := events.foldl meet i

/-- The reactions during some events, in order. -/
def reactions (i : Interrupts) : List Event → List InterruptAction
  | [] => []
  | .react :: events => i.react.1 :: reactions (i.meet .react) events
  | event :: events => reactions (i.meet event) events

/-! ### Steps as events -/

/-- The state behind some events is the one behind the rest, from where the first leads. -/
theorem stateAfter_cons (i : Interrupts) (event : Event) (events : List Event) :
    i.stateAfter (event :: events) = (i.meet event).stateAfter events := rfl

/-- The state behind events is reached in two turns. -/
theorem stateAfter_append (i : Interrupts) (early late : List Event) :
    i.stateAfter (early ++ late) = (i.stateAfter early).stateAfter late :=
  List.foldl_append

/-- The reactions to late events are those from the state behind the early ones. -/
theorem reactions_append (i : Interrupts) (early late : List Event) :
    i.reactions (early ++ late) = i.reactions early ++ (i.stateAfter early).reactions late := by
  -- Over all states, since each early event leads to another one.
  induction early generalizing i with
  | nil => rfl
  | cons event early ih =>
    cases event with
    | react => exact congrArg (i.react.1 :: ·) (ih _)
    | enterSession | sectionBegins | sectionEnds => exact ih _

/-- Each interrupt has its reaction. -/
theorem length_reactions (i : Interrupts) (events : List Event) :
    (i.reactions events).length = events.count .react := by
  induction events generalizing i with
  | nil => rfl
  | cons event events ih =>
    cases event with
    | react => rw [reactions, List.length_cons, ih, List.count_cons_self]
    | enterSession | sectionBegins | sectionEnds =>
      rw [List.count_cons_of_ne (by decide)]
      exact ih _

mutual

/-- To perform a step is to meet its events, one after the other. -/
theorem perform_eq (step : Step) (i : Interrupts) :
    perform step i = (i.reactions step.events, i.stateAfter step.events) := by
  cases step with
  | enterSession => rfl
  | react => rfl
  | whileBusy body =>
    rw [perform, performAll_eq body i.beginWork, Step.events]
    show (_, _) = (i.beginWork.reactions (Step.allEvents body ++ [.sectionEnds]),
      i.beginWork.stateAfter (Step.allEvents body ++ [.sectionEnds]))
    rw [reactions_append, stateAfter_append]
    -- The end of the section is no interrupt: all reactions are those of the body.
    simp only [reactions, List.append_nil]
    rfl

/-- **Steps are performed event by event.** -/
theorem performAll_eq (steps : List Step) (i : Interrupts) :
    performAll steps i
      = (i.reactions (Step.allEvents steps), i.stateAfter (Step.allEvents steps)) := by
  cases steps with
  | nil => rfl
  | cons step steps =>
    rw [performAll, perform_eq step i, Step.allEvents, reactions_append, stateAfter_append]
    -- The rest starts from the state that the step leaves.
    dsimp only
    rw [performAll_eq steps]

end

/-! ### Moments -/

/-- How many sections are open behind an event, if `n` were before it. -/
def tally (n : Nat) : Event → Nat
  | .sectionBegins => n + 1
  | .sectionEnds => n - 1
  | _ => n

/-- How many sections are open behind some events. -/
def openSections (events : List Event) : Nat := events.foldl tally 0

/-- A section has begun, and none has ended since. -/
def SectionRuns (events : List Event) : Prop :=
  ∃ early late, events = early ++ .sectionBegins :: late ∧ .sectionEnds ∉ late

/-- The last section that ended left another one open, and none has begun since. -/
def EndedInside (events : List Event) : Prop :=
  ∃ early late, events = early ++ .sectionEnds :: late ∧
    .sectionBegins ∉ late ∧ .sectionEnds ∉ late ∧ 0 < openSections (early ++ [.sectionEnds])

/-- While none ends, there are not fewer of them. -/
theorem le_foldl_tally {events : List Event} (h : .sectionEnds ∉ events) (n : Nat) :
    n ≤ events.foldl tally n := by
  induction events generalizing n with
  | nil => exact Nat.le_refl n
  | cons event events ih =>
    rw [List.mem_cons, not_or] at h
    refine Nat.le_trans ?_ (ih h.2 (tally n event))
    cases event with
    | sectionEnds => exact absurd rfl h.1
    | sectionBegins => exact Nat.le_succ n
    | enterSession | react => exact Nat.le_refl n

/-- While none begins and none ends, there are as many. -/
theorem foldl_tally_eq {events : List Event} (hbegins : .sectionBegins ∉ events)
    (hends : .sectionEnds ∉ events) (n : Nat) : events.foldl tally n = n := by
  induction events generalizing n with
  | nil => rfl
  | cons event events ih =>
    rw [List.mem_cons, not_or] at hbegins hends
    have htally : tally n event = n := by
      cases event with
      | sectionBegins => exact absurd rfl hbegins.1
      | sectionEnds => exact absurd rfl hends.1
      | enterSession | react => rfl
    rw [List.foldl_cons, htally, ih hbegins.2 hends.2]

/-- A section runs as soon as it has begun, and no event but the end of one changes that. -/
theorem sectionRuns_cons {event : Event} {events : List Event} :
    SectionRuns (event :: events) ↔
      event = .sectionBegins ∧ .sectionEnds ∉ events ∨ SectionRuns events := by
  constructor
  · rintro ⟨early, late, h, hlate⟩
    cases early with
    | nil =>
      obtain ⟨rfl, rfl⟩ := List.cons.inj h
      exact .inl ⟨rfl, hlate⟩
    | cons _ early => exact .inr ⟨early, late, (List.cons.inj h).2, hlate⟩
  · rintro (⟨rfl, hlate⟩ | ⟨early, late, rfl, hlate⟩)
    · exact ⟨[], events, rfl, hlate⟩
    · exact ⟨event :: early, late, rfl, hlate⟩

/-- A section that runs is open. -/
theorem SectionRuns.openSections_pos {events : List Event} (h : SectionRuns events) :
    0 < openSections events := by
  obtain ⟨early, late, rfl, hlate⟩ := h
  rw [openSections, List.foldl_append, List.foldl_cons]
  exact Nat.lt_of_lt_of_le (Nat.succ_pos _) (le_foldl_tally hlate _)

/-- What happened to the sections last: nothing yet, or one began, or one ended. -/
theorem last_cases (events : List Event) :
    (.sectionBegins ∉ events ∧ .sectionEnds ∉ events) ∨ SectionRuns events ∨
    ∃ early late, events = early ++ .sectionEnds :: late ∧
      .sectionBegins ∉ late ∧ .sectionEnds ∉ late := by
  induction events with
  | nil => exact .inl ⟨List.not_mem_nil, List.not_mem_nil⟩
  | cons event events ih =>
    -- This event counts only if nothing happens to a section behind it.
    rcases ih with ⟨hbegins, hends⟩ | ⟨early, late, rfl, hlate⟩ | ⟨early, late, rfl, hlate⟩
    · cases event with
      | sectionBegins => exact .inr (.inl ⟨[], events, rfl, hends⟩)
      | sectionEnds => exact .inr (.inr ⟨[], events, rfl, hbegins, hends⟩)
      | enterSession | react => exact .inl ⟨by simpa using hbegins, by simpa using hends⟩
    · exact .inr (.inl ⟨event :: early, late, rfl, hlate⟩)
    · exact .inr (.inr ⟨event :: early, late, rfl, hlate⟩)

/-- If a section is open, one runs, unless the last to end was inside of it. -/
theorem sectionRuns_of_open {events : List Event} (hopen : 0 < openSections events)
    (hinside : ¬ EndedInside events) : SectionRuns events := by
  rcases last_cases events with ⟨hbegins, hends⟩ | hruns | ⟨early, late, rfl, hbegins, hends⟩
  · rw [openSections, foldl_tally_eq hbegins hends] at hopen
    exact absurd hopen (Nat.lt_irrefl 0)
  · exact hruns
  · -- As many are open as right behind the one that ended.
    refine absurd ⟨early, late, rfl, hbegins, hends, ?_⟩ hinside
    rwa [openSections, ← List.singleton_append, ← List.append_assoc, List.foldl_append,
      foldl_tally_eq hbegins hends] at hopen

/-! ### The state at a moment -/

/-- An interrupt has arrived by the end if it had before, or is among the events. -/
theorem raised_stateAfter (i : Interrupts) (events : List Event) :
    (i.stateAfter events).raised = true ↔ i.raised = true ∨ .react ∈ events := by
  induction events generalizing i with
  | nil => simp [stateAfter]
  | cons event events ih =>
    rw [stateAfter_cons, ih]
    cases event <;> simp [meet, react, enterSession, beginWork, endWork]

/-- A session has begun by the end if it had before, or its beginning is among the events. -/
theorem inSession_stateAfter (i : Interrupts) (events : List Event) :
    (i.stateAfter events).inSession = true ↔ i.inSession = true ∨ .enterSession ∈ events := by
  induction events generalizing i with
  | nil => simp [stateAfter]
  | cons event events ih =>
    rw [stateAfter_cons, ih]
    cases event <;> simp [meet, react, enterSession, beginWork, endWork]

/-- The engine is worked with while a section runs, or as long as none has ended since before. -/
theorem idle_stateAfter (i : Interrupts) (events : List Event) :
    (i.stateAfter events).idle = false ↔
      SectionRuns events ∨ i.idle = false ∧ .sectionEnds ∉ events := by
  induction events generalizing i with
  | nil => simp [stateAfter, SectionRuns]
  | cons event events ih =>
    rw [stateAfter_cons, ih, sectionRuns_cons]
    cases event with
    -- Only the last beginning or end counts: this one does if none comes behind it.
    | sectionBegins =>
      simp only [meet, beginWork, List.mem_cons, reduceCtorEq, false_or, true_and]
      constructor
      · rintro (h | h)
        · exact .inl (.inr h)
        · exact .inl (.inl h)
      · rintro ((h | h) | ⟨-, h⟩)
        · exact .inr h
        · exact .inl h
        · exact .inr h
    | sectionEnds => simp [meet, endWork]
    | enterSession => simp [meet, enterSession]
    | react => simp [meet, react]

/-- From the start of the program on, an interrupt cancels exactly while a section runs. -/
theorem idle_stateAfter_fresh (events : List Event) :
    (fresh.stateAfter events).idle = false ↔ SectionRuns events := by
  rw [idle_stateAfter]
  exact or_iff_left fun h => Bool.noConfusion h.1

/-- Behind the end of a section inside of another one, the engine counts as left alone. -/
theorem EndedInside.not_sectionRuns {events : List Event} (h : EndedInside events) :
    ¬ SectionRuns events := by
  obtain ⟨early, late, rfl, hbegins, -, -⟩ := h
  rw [← idle_stateAfter_fresh, stateAfter_append, stateAfter_cons, idle_stateAfter]
  -- A section that ran would have begun behind that end, and from there on the engine is idle.
  rintro (⟨front, back, rfl, -⟩ | ⟨hidle, -⟩)
  · exact hbegins (by simp)
  · cases hidle

/-! ### Reactions -/

/-- What an interrupt does behind some events if it does not cancel. -/
def outside (events : List Event) : InterruptAction :=
  if .enterSession ∈ events then .farewell else .abort

/-- What an interrupt does behind some events. -/
theorem action_stateAfter (events : List Event) :
    (SectionRuns events → (fresh.stateAfter events).action = .cancel) ∧
    (¬ SectionRuns events → (fresh.stateAfter events).action = outside events) := by
  have hidle := idle_stateAfter_fresh events
  have hsession := inSession_stateAfter fresh events
  rw [action, outside]
  constructor
  · intro hruns
    rw [hidle.mpr hruns]
    rfl
  · intro hruns
    -- No section runs, so the engine is idle, and the session alone decides.
    have hleft : (fresh.stateAfter events).idle = true := by
      rw [← Bool.not_eq_false]
      exact mt hidle.mp hruns
    rw [or_iff_right (show ¬ fresh.inSession = true from Bool.false_ne_true)] at hsession
    simp [hleft, hsession]

/-- **What interrupts do under nesting.** At every moment of every series of steps, sections inside
    one another included, an interrupt has been raised exactly if one has arrived. One that arrives
    then
    * says farewell if no section is open and a session has begun, and aborts if none has;
    * cancels if a section is open, unless the last section that ended was inside of it and none
      has begun since;
    * does in this last case what it does when no section is open. -/
theorem reaction_at (steps : List Step) (before after : List Event)
    (h : Step.allEvents steps = before ++ after) :
    ((fresh.stateAfter before).raised = true ↔ .react ∈ before) ∧
    ∀ rest, after = .react :: rest →
      let reaction := (performAll steps fresh).1[before.count .react]?
      (openSections before = 0 → reaction = some (outside before)) ∧
      (0 < openSections before → ¬ EndedInside before → reaction = some .cancel) ∧
      (EndedInside before → reaction = some (outside before)) := by
  refine ⟨?_, ?_⟩
  · rw [raised_stateAfter]
    exact or_iff_right Bool.false_ne_true
  · rintro rest rfl reaction
    obtain ⟨hcancel, houtside⟩ := action_stateAfter before
    -- Each reaction has its place: as many come before it as interrupts have arrived.
    have hreaction : reaction = some (fresh.stateAfter before).action := by
      show (performAll steps fresh).1[before.count .react]? = _
      rw [performAll_eq, h, reactions_append, ← length_reactions fresh before,
        List.getElem?_append_right (Nat.le_refl _), Nat.sub_self]
      rfl
    rw [hreaction]
    refine ⟨fun hopen => ?_, fun hopen hinside => ?_, fun hinside => ?_⟩
    · refine congrArg some (houtside fun hruns => ?_)
      exact absurd hruns.openSections_pos (by rw [hopen]; exact Nat.lt_irrefl 0)
    · exact congrArg some (hcancel (sectionRuns_of_open hopen hinside))
    · exact congrArg some (houtside hinside.not_sectionRuns)

/-- A section has ended inside of another one, in a session, and an interrupt arrives behind it. -/
theorem reaction_at_inner_end :
    let steps : List Step :=
      [.enterSession, .whileBusy [.whileBusy [], .react, .whileBusy [.react]]]
    let before : List Event := [.enterSession, .sectionBegins, .sectionBegins, .sectionEnds]
    let rest : List Event := [.sectionBegins, .react, .sectionEnds, .sectionEnds]
    Step.allEvents steps = before ++ .react :: rest ∧ EndedInside before ∧
    (performAll steps fresh).1[before.count .react]? = some .farewell := by
  intro steps before rest
  have hevents : Step.allEvents steps = before ++ .react :: rest := rfl
  have hinside : EndedInside before :=
    ⟨[.enterSession, .sectionBegins, .sectionBegins], [], rfl, by decide, by decide, by decide⟩
  exact ⟨hevents, hinside, ((reaction_at steps before _ hevents).2 rest rfl).2.2 hinside⟩

/-- An interrupt that arrives in an open section, behind one that has ended inside of it, does not
    cancel. -/
theorem aborts_in_open_section :
    let steps : List Step := [.whileBusy [.whileBusy [], .react]]
    let before : List Event := [.sectionBegins, .sectionBegins, .sectionEnds]
    Step.allEvents steps = before ++ [.react, .sectionEnds] ∧ openSections before = 1 ∧
    (performAll steps fresh).1 = [.abort] := by
  intro steps before
  exact ⟨rfl, rfl, rfl⟩

end ZoneAccess.Interrupts

import ZoneAccess.Proofs.Engine.Scripted
import ZoneAccess.Proofs.Pipeline.Launches

namespace ZoneAccess.Pipeline

/-!
# Independence of questions

A pipeline that is used for one setup check or question after the other.

* `Step`, `runStep`, `performAll` — the uses of a pipeline, one of them, and a series of them,
  each with a record of its outcome and its invocations;
* `took_performAll` — the invocations of a series are those of its records in a row, and each has
  taken an entry of the script;
* `confined_performAll` — a series depends on nothing but the entries that it takes from the
  script;
* `performAll_independent` — what a step sends and what it comes to has nothing to do with the
  steps around it, and without it these go as before.
-/

variable {σ α : Type}

/-! ### Steps -/

/-- A use of a pipeline. -/
inductive Step
  | ask (question : String)
  | checkSetup
  deriving DecidableEq

/-- What a step came to, and what it invoked. -/
structure Record where
  outcome : Outcome
  invocations : List Invocation

/-- A step: what it comes to, and the desk after it. -/
def runStep (p : Pipeline) (fs : FileSystem) (e : Engine σ) : Step → Desk σ → Outcome × Desk σ
  | .ask question => p.ask e question
  | .checkSetup => p.checkSetup fs e

/-- A step that is put on record. -/
def perform (p : Pipeline) (fs : FileSystem) (e : Engine σ) (step : Step) (d : Desk σ) :
    Record × Desk σ :=
  let (outcome, after) := p.runStep fs e step d
  (⟨outcome, after.invocations.drop d.invocations.length⟩, after)

/-- Steps one after the other. -/
def performAll (p : Pipeline) (fs : FileSystem) (e : Engine σ) :
    List Step → Desk σ → List Record × Desk σ
  | [], d => ([], d)
  | step :: steps, d =>
    let (ran, d) := p.perform fs e step d
    let (later, d) := performAll p fs e steps d
    (ran :: later, d)

variable (p : Pipeline) (fs : FileSystem)

section Engine

variable (e : Engine σ) (d : Desk σ)

/-- The first step is performed at the desk, and the rest at the desk that it leaves. -/
theorem performAll_cons (step : Step) (steps : List Step) :
    p.performAll fs e (step :: steps) d =
      ((p.perform fs e step d).1 :: (p.performAll fs e steps (p.perform fs e step d).2).1,
        (p.performAll fs e steps (p.perform fs e step d).2).2) := rfl

/-- A series goes on from where its first part ended. -/
theorem performAll_append (early late : List Step) :
    p.performAll fs e (early ++ late) d =
      ((p.performAll fs e early d).1 ++ (p.performAll fs e late (p.performAll fs e early d).2).1,
        (p.performAll fs e late (p.performAll fs e early d).2).2) := by
  induction early generalizing d with
  | nil => rfl
  | cons step early ih =>
    rw [List.cons_append, performAll_cons, ih, performAll_cons, List.cons_append]

/-- Each step has its result. -/
@[simp] theorem length_performAll (steps : List Step) :
    (p.performAll fs e steps d).1.length = steps.length := by
  induction steps generalizing d with
  | nil => rfl
  | cons step steps ih => rw [performAll_cons, List.length_cons, ih, List.length_cons]

/-- What a question without tokens is recorded with. -/
theorem perform_ask_of_none {question : String} (h : p.questionInvocation? question = none) :
    (p.perform fs e (.ask question) d).1 = ⟨.runtimeError noUsableQuery, []⟩ := by
  simp [perform, runStep, p.ask_of_none e d h]

/-- What any other question is recorded with. -/
theorem perform_ask_of_some {question : String} {i : Invocation}
    (h : p.questionInvocation? question = some i) :
    (p.perform fs e (.ask question) d).1 = ⟨answerFrom (d.launch e i).1, [i]⟩ := by
  simp [perform, runStep, p.ask_of_some e d h, Desk.launch_invocations]

end Engine

/-! ### Steps with a scripted engine -/

variable (answer : Invocation → Option α → Reply)

open Desk (Confined confined_launch Took)

/-- A question takes an entry if it has tokens. -/
theorem confined_ask (question : String) :
    Confined (p.ask (Engine.scripted answer) question) := by
  cases h : p.questionInvocation? question with
  | none =>
    have hask : p.ask (Engine.scripted answer) question
        = fun d => (.runtimeError noUsableQuery, d) :=
      funext fun d => p.ask_of_none _ d h
    rw [hask]
    exact Confined.pure _
  | some i =>
    have hask : p.ask (Engine.scripted answer) question = fun d =>
        let (result, d) := d.launch (Engine.scripted answer) i
        (answerFrom result, d) :=
      funext fun d => p.ask_of_some _ d h
    rw [hask]
    exact (confined_launch answer i).bind fun result => Confined.pure (answerFrom result)

/-- A setup check behind its second probe. -/
def concludeSetup (version : String) (loaded : Except EngineError Report) (d : Desk σ) :
    Outcome × Desk σ :=
  match confirmLoad loaded with
  | .error m => (.setupError m, d)
  | .ok () => (.success (version ++ "; rule base and grammar loaded"), d)

/-- A setup check behind its first probe. -/
def resumeSetup (e : Engine σ) (probed : Except EngineError Report) (d : Desk σ) :
    Outcome × Desk σ :=
  match versionFrom p.program probed with
  | .error m => (.setupError m, d)
  | .ok version =>
    match verifyResource fs "rule base" p.resources.ruleBase with
    | .error m => (.setupError m, d)
    | .ok () =>
      match verifyResource fs "grammar" p.resources.grammar with
      | .error m => (.setupError m, d)
      | .ok () =>
        let (loaded, d) := d.launch e (.directive p.program (Directive.probe p.resources))
        concludeSetup version loaded d

/-- A setup check is its first probe, and what follows from the reply. -/
theorem checkSetup_eq_resumeSetup (e : Engine σ) :
    p.checkSetup fs e = fun d =>
      let (probed, d) := d.launch e (.version p.program)
      p.resumeSetup fs e probed d := rfl

/-- A setup check takes an entry for each of its probes that is made. -/
theorem confined_checkSetup : Confined (p.checkSetup fs (Engine.scripted answer)) := by
  rw [checkSetup_eq_resumeSetup]
  refine (confined_launch answer (.version p.program)).bind fun probed => ?_
  unfold resumeSetup
  -- The tests between the probes need no engine.
  split
  · exact Confined.pure _
  · split
    · exact Confined.pure _
    · split
      · exact Confined.pure _
      · refine (confined_launch answer _).bind fun loaded => ?_
        unfold concludeSetup
        split
        · exact Confined.pure _
        · exact Confined.pure _

/-- Every step is confined to the entries that it takes from the script. -/
theorem confined_runStep (step : Step) :
    Confined (p.runStep fs (Engine.scripted answer) step) := by
  cases step with
  | ask question => exact p.confined_ask answer question
  | checkSetup => exact p.confined_checkSetup fs answer

/-- A step depends on nothing but the entries that it takes, and neither does its record. -/
theorem confined_perform (step : Step) :
    Confined (p.perform fs (Engine.scripted answer) step) := by
  intro d
  obtain ⟨made, htook, hsame⟩ := p.confined_runStep fs answer step d
  refine ⟨made, htook, fun d' hentries => ?_⟩
  obtain ⟨houtcome, htook'⟩ := hsame d' hentries
  refine ⟨?_, htook'⟩
  rw [perform, perform]
  dsimp only
  -- Both records keep what was taken, which is the same.
  rw [houtcome, htook.drop_invocations, htook'.drop_invocations]

/-- A series depends on nothing but the entries that its steps take. -/
theorem confined_performAll (steps : List Step) :
    Confined (p.performAll fs (Engine.scripted answer) steps) := by
  induction steps with
  | nil => exact Confined.pure []
  | cons step steps ih =>
    exact (p.confined_perform fs answer step).bind fun ran =>
      ih.bind fun later => Confined.pure (ran :: later)

/-- A step takes an entry for each invocation that it is recorded with. -/
theorem took_perform (step : Step) (d : Desk (List α)) :
    Took (p.perform fs (Engine.scripted answer) step d).1.invocations d
      (p.perform fs (Engine.scripted answer) step d).2 := by
  obtain ⟨made, htook, -⟩ := p.confined_runStep fs answer step d
  rw [perform]
  dsimp only
  rw [htook.drop_invocations]
  exact htook

/-- The invocations of a series are those of its records, in a row. -/
theorem took_performAll (steps : List Step) (d : Desk (List α)) :
    Took ((p.performAll fs (Engine.scripted answer) steps d).1.flatMap (·.invocations)) d
      (p.performAll fs (Engine.scripted answer) steps d).2 := by
  induction steps generalizing d with
  | nil => exact Took.refl d
  | cons step steps ih => exact (p.took_perform fs answer step d).trans (ih _)

/-! ### One step among others -/

/-- A step comes to the same with no more than the entries that it takes, whatever was done at the
    desk before. -/
theorem perform_alone (step : Step) (d : Desk (List α)) :
    let ran := (p.perform fs (Engine.scripted answer) step d).1
    (p.perform fs (Engine.scripted answer) step
      (Desk.fresh (d.engine.take ran.invocations.length))).1 = ran := by
  obtain ⟨made, htook, hsame⟩ := p.confined_perform fs answer step d
  -- The step takes as many entries as its record has invocations.
  have hmade : (p.perform fs (Engine.scripted answer) step d).1.invocations = made := by
    rw [← htook.drop_invocations, (p.took_perform fs answer step d).drop_invocations]
  dsimp only
  rw [hmade]
  exact (hsame _ (sameEntries_take _ _)).1

/-- If some entries behind those of a series are taken out, the series goes as before, and what
    comes behind it goes as from any desk with the rest of the script. -/
theorem performAll_without (early late : List Step) (n : Nat) {d d' gapped : Desk (List α)} :
    let e := Engine.scripted answer
    let earlier := (p.performAll fs e early d).1
    let before := (earlier.flatMap (·.invocations)).length
    d'.engine = d.engine.drop (before + n) →
    gapped.engine = d.engine.take before ++ d.engine.drop (before + n) →
    (p.performAll fs e (early ++ late) gapped).1 = earlier ++ (p.performAll fs e late d').1 := by
  intro e earlier before hd' hgapped
  obtain ⟨made, htook, hsame⟩ := p.confined_performAll fs answer early d
  have hmade : made.length = before := by
    rw [← htook.drop_invocations, (p.took_performAll fs answer early d).drop_invocations]
  rw [hmade] at hsame
  obtain ⟨hearlier, htook'⟩ :=
    hsame gapped (hgapped ▸ sameEntries_take_append_drop before n d.engine)
  -- The first part ends where the gap was.
  have hleft : (p.performAll fs e early gapped).2.engine = d'.engine := by
    rw [htook'.engine, hmade, hgapped, drop_take_append_drop, hd']
  obtain ⟨_, -, hlate⟩ := p.confined_performAll fs answer late d'
  rw [performAll_append, hearlier, (hlate _ (SameEntries.of_eq hleft _)).1]

/-- **Questions are independent.** Whatever steps a pipeline was used for, and whatever a scripted
    engine answered, in front of a step and behind it:
    * a question without tokens invokes nothing, and any other is exactly one invocation, with
      `-q`, `-t` and its directive;
    * the invocations of all steps are those of the single steps in a row;
    * without the step, and without the entries of the script that it took, the others come to the
      same and invoke the same;
    * alone, with no more than these entries, the step comes to the same and invokes the same, so
      that no failure before it makes a difference. -/
theorem performAll_independent (early late : List Step) (step : Step) (d : Desk (List α)) :
    let e := Engine.scripted answer
    ∃ earlier ran later,
      (p.performAll fs e (early ++ step :: late) d).1 = earlier ++ ran :: later ∧
      earlier.length = early.length ∧ later.length = late.length ∧
      (∀ question, step = .ask question → Question.tokens question = [] → ran.invocations = []) ∧
      (∀ question (h : Question.tokens question ≠ []), step = .ask question →
        ran.invocations = [⟨p.program, ["-q", "-t",
          Directive.query p.resources ⟨p.predicate, Question.tokens question, h⟩]⟩]) ∧
      (p.performAll fs e (early ++ step :: late) d).2.invocations
        = d.invocations ++ (earlier ++ ran :: later).flatMap (·.invocations) ∧
      let before := (earlier.flatMap (·.invocations)).length
      let taken := ran.invocations.length
      (p.performAll fs e early d).2.engine = d.engine.drop before ∧
      (p.performAll fs e (early ++ [step]) d).2.engine = d.engine.drop (before + taken) ∧
      (p.performAll fs e (early ++ late)
        { d with engine := d.engine.take before ++ d.engine.drop (before + taken) }).1
          = earlier ++ later ∧
      (p.performAll fs e [step] (Desk.fresh ((d.engine.drop before).take taken))).1 = [ran] := by
  intro e
  -- The desk in front of the step, and the one behind it.
  let reached := (p.performAll fs e early d).2
  let passed := (p.perform fs e step reached).2
  have hbefore := p.took_performAll fs answer early d
  have hstep := p.took_perform fs answer step reached
  have hengine : passed.engine = d.engine.drop
      (((p.performAll fs e early d).1.flatMap (·.invocations)).length +
        (p.perform fs e step reached).1.invocations.length) := by
    rw [hstep.engine, hbefore.engine, List.drop_drop]
  refine ⟨(p.performAll fs e early d).1, (p.perform fs e step reached).1,
    (p.performAll fs e late passed).1, ?_, p.length_performAll fs e d early,
    p.length_performAll fs e passed late, ?_, ?_, ?_, hbefore.engine, ?_, ?_, ?_⟩
  · rw [performAll_append, performAll_cons]
  · rintro question rfl htokens
    rw [p.perform_ask_of_none fs e reached (p.questionInvocation?_eq_none_iff.mpr htokens)]
  · rintro question htokens rfl
    rw [p.perform_ask_of_some fs e reached (p.questionInvocation?_of_tokens htokens)]
    rfl
  · rw [(p.took_performAll fs answer _ d).invocations, performAll_append, performAll_cons]
  · rw [performAll_append, performAll_cons]
    exact hengine
  · exact p.performAll_without fs answer early late _ hengine rfl
  · -- In front of the step, the script begins with the entries that it takes.
    rw [← hbefore.engine]
    exact congrArg (· :: []) (p.perform_alone fs answer step reached)

end ZoneAccess.Pipeline

import ZoneAccess.Pipeline
import ZoneAccess.Proofs.Directive.Structure
import ZoneAccess.Proofs.Engine.Replies
import ZoneAccess.Proofs.Question.Blanks

namespace ZoneAccess.Pipeline

/-!
# What the pipeline launches

* `probes`, `questionInvocation?` — the invocations of a setup check, and the one that a
  question comes to;
* `SetupCourse`, `checkSetup_course` — the ways in which a setup check may go, one for each of
  its tests that may fail and one to the end;
* `checkSetup_worked` — a setup check makes the probes in order, up to the first that
  fails, and all of them if it succeeds;
* `ask_of_none`, `ask_of_some` — a question without tokens is answered without the engine,
  any other makes its one invocation.
-/

variable {σ : Type} (p : Pipeline)

/-! ### The invocations -/

/-- What a setup check invokes if nothing stops it. -/
def probes : List Invocation :=
  [.version p.program, .directive p.program (Directive.probe p.resources)]

/-- The invocation that sends a query. -/
def queryInvocation (q : Query) : Invocation :=
  .directive p.program (Directive.query p.resources q)

/-- The invocation that a question comes to; none if it has no tokens. -/
def questionInvocation? (question : String) : Option Invocation :=
  (Query.ofQuestion p.predicate question).toOption.map p.queryInvocation

/-- Invocations of different programs or with different directives differ. -/
theorem directive_inj {program program' directive directive' : String} :
    Invocation.directive program directive = .directive program' directive' ↔
      program = program' ∧ directive = directive' := by
  simp [Invocation.directive]

/-- No probe of any pipeline is the invocation of a query. -/
theorem queryInvocation_not_mem_probes (p' : Pipeline) (q : Query) :
    p.queryInvocation q ∉ p'.probes := by
  intro h
  rcases List.mem_cons.mp h with hversion | hload
  · -- The two kinds of invocation have different arguments.
    simp [queryInvocation, Invocation.directive, Invocation.version] at hversion
  · rw [List.mem_singleton, queryInvocation, directive_inj] at hload
    exact Directive.query_ne_probe p.resources p'.resources q hload.2

/-- A question with tokens comes to the invocation of the query of them. -/
theorem questionInvocation?_of_tokens {question : String} (h : Question.tokens question ≠ []) :
    p.questionInvocation? question
      = some (p.queryInvocation ⟨p.predicate, Question.tokens question, h⟩) := by
  rw [questionInvocation?, Query.ofQuestion_of_tokens h]
  rfl

/-- Exactly the questions without tokens are not sent. -/
theorem questionInvocation?_eq_none_iff {question : String} :
    p.questionInvocation? question = none ↔ Question.tokens question = [] := by
  by_cases h : Question.tokens question = []
  · rw [questionInvocation?, Query.ofQuestion_of_no_tokens h]
    simp [h, Except.toOption]
  · simp [p.questionInvocation?_of_tokens h, h]

/-- Blanks at the ends of a question do not reach the engine. -/
theorem questionInvocation?_trim (question : String) :
    p.questionInvocation? (Text.trim question) = p.questionInvocation? question := by
  rw [questionInvocation?, Query.ofQuestion, Question.tokens_trim, questionInvocation?,
    Query.ofQuestion]

/-- A blank question is not sent. -/
theorem questionInvocation?_of_blank {question : String} (h : Text.trim question = "") :
    p.questionInvocation? question = none := by
  rw [← p.questionInvocation?_trim, h]
  exact p.questionInvocation?_eq_none_iff.mpr rfl

/-- What a question comes to is the invocation of a query. -/
theorem exists_query_of_questionInvocation? {question : String} {i : Invocation}
    (h : p.questionInvocation? question = some i) :
    ∃ q : Query, q.predicate = p.predicate ∧ q.tokens = Question.tokens question ∧
      i = p.queryInvocation q := by
  by_cases ht : Question.tokens question = []
  · rw [p.questionInvocation?_eq_none_iff.mpr ht] at h
    cases h
  · rw [p.questionInvocation?_of_tokens ht] at h
    exact ⟨_, rfl, rfl, (Option.some.inj h).symm⟩

/-! ### Setup checks -/

variable (fs : FileSystem) (e : Engine σ) (d : Desk σ)

/-- The engine is asked for its version. -/
def probeVersion : Except EngineError Report × Desk σ := d.launch e (.version p.program)

/-- The engine is made to load both files. -/
def probeLoad : Except EngineError Report × Desk σ :=
  d.launch e (.directive p.program (Directive.probe p.resources))

/-- Behind the first probe it is on record. -/
theorem probeVersion_invocations :
    (p.probeVersion e d).2.invocations = d.invocations ++ [.version p.program] :=
  Desk.launch_invocations e _ d

/-- Behind both probes they are on record in this order. -/
theorem probeLoad_invocations :
    (p.probeLoad e (p.probeVersion e d).2).2.invocations = d.invocations ++ p.probes := by
  rw [probeLoad, Desk.launch_invocations, probeVersion_invocations, List.append_assoc]
  rfl

/-- How a setup check goes: it ends behind the first of its four tests that fails, or behind the
    last. -/
inductive SetupCourse : Outcome × Desk σ → Prop
  | noVersion {m : String} :
      versionFrom p.program (p.probeVersion e d).1 = .error m →
      SetupCourse (.setupError m, (p.probeVersion e d).2)
  | noRuleBase {version m : String} :
      versionFrom p.program (p.probeVersion e d).1 = .ok version →
      verifyResource fs "rule base" p.resources.ruleBase = .error m →
      SetupCourse (.setupError m, (p.probeVersion e d).2)
  | noGrammar {version m : String} :
      versionFrom p.program (p.probeVersion e d).1 = .ok version →
      verifyResource fs "rule base" p.resources.ruleBase = .ok () →
      verifyResource fs "grammar" p.resources.grammar = .error m →
      SetupCourse (.setupError m, (p.probeVersion e d).2)
  | notLoaded {version m : String} :
      versionFrom p.program (p.probeVersion e d).1 = .ok version →
      verifyResource fs "rule base" p.resources.ruleBase = .ok () →
      verifyResource fs "grammar" p.resources.grammar = .ok () →
      confirmLoad (p.probeLoad e (p.probeVersion e d).2).1 = .error m →
      SetupCourse (.setupError m, (p.probeLoad e (p.probeVersion e d).2).2)
  | ready {version : String} :
      versionFrom p.program (p.probeVersion e d).1 = .ok version →
      verifyResource fs "rule base" p.resources.ruleBase = .ok () →
      verifyResource fs "grammar" p.resources.grammar = .ok () →
      confirmLoad (p.probeLoad e (p.probeVersion e d).2).1 = .ok () →
      SetupCourse (.success (version ++ "; rule base and grammar loaded"),
        (p.probeLoad e (p.probeVersion e d).2).2)

/-- Every setup check goes in one of these ways. -/
theorem checkSetup_course : SetupCourse p fs e d (p.checkSetup fs e d) := by
  unfold checkSetup
  dsimp only
  split
  · next hversion => exact .noVersion hversion
  · next hversion =>
    split
    · next hruleBase => exact .noRuleBase hversion hruleBase
    · next hruleBase =>
      split
      · next hgrammar => exact .noGrammar hversion hruleBase hgrammar
      · next hgrammar =>
        split
        · next hload => exact .notLoaded hversion hruleBase hgrammar hload
        · next hload => exact .ready hversion hruleBase hgrammar hload

/-- **A setup check makes its probes in order**, none twice, up to the first that fails; if it
    succeeds it has made all of them. -/
theorem checkSetup_worked {d : Desk σ} (h : d.interrupts.idle = false) :
    ∃ made, made <+: p.probes ∧ Desk.Worked e made d (p.checkSetup fs e d).2 ∧
      ((p.checkSetup fs e d).1.isSuccess = true → made = p.probes) := by
  obtain ⟨hversion, hbusy⟩ := Desk.worked_launch e (.version p.program) h
  obtain ⟨hload, -⟩ :=
    Desk.worked_launch e (.directive p.program (Directive.probe p.resources)) hbusy
  have hfirst : [Invocation.version p.program] <+: p.probes := ⟨_, rfl⟩
  have hcourse := p.checkSetup_course fs e d
  generalize p.checkSetup fs e d = result at hcourse
  -- One probe was made in the first three cases, and both in the others.
  cases hcourse with
  | noVersion | noRuleBase | noGrammar => exact ⟨_, hfirst, hversion, nofun⟩
  | notLoaded | ready =>
    exact ⟨p.probes, List.prefix_refl _, hversion.trans hload, fun _ => rfl⟩

/-! ### Questions -/

/-- A question is answered as if the blanks at its ends were not there. -/
theorem ask_trim (question : String) : p.ask e (Text.trim question) d = p.ask e question d := by
  rw [ask, Query.ofQuestion, Question.tokens_trim, ask, Query.ofQuestion]

/-- A question without tokens is answered without the engine. -/
theorem ask_of_none {question : String} (h : p.questionInvocation? question = none) :
    p.ask e question d = (.runtimeError noUsableQuery, d) := by
  rw [ask, Query.ofQuestion_of_no_tokens (p.questionInvocation?_eq_none_iff.mp h)]

/-- Any other question is one launch, and its outcome is that of the launch. -/
theorem ask_of_some {question : String} {i : Invocation}
    (h : p.questionInvocation? question = some i) :
    p.ask e question d = (answerFrom (d.launch e i).1, (d.launch e i).2) := by
  have ht : Question.tokens question ≠ [] := by
    intro hnil
    rw [p.questionInvocation?_eq_none_iff.mpr hnil] at h
    cases h
  rw [p.questionInvocation?_of_tokens ht] at h
  rw [ask, Query.ofQuestion_of_tokens ht, ← Option.some.inj h]
  rfl

/-- A question that is asked is one invocation, and its outcome is that of the reply. -/
theorem whileBusy_ask_of_some {question : String} {i : Invocation}
    (h : p.questionInvocation? question = some i) :
    (Desk.whileBusy (p.ask e question) d).1
        = answerFrom (e.launch i d.interrupts.raised d.engine).1.result ∧
      Desk.Worked e [i] d (Desk.whileBusy (p.ask e question) d).2 := by
  have hask := p.ask_of_some e d.busy h
  refine ⟨?_, Desk.Worked.whileBusy ?_⟩
  · rw [Desk.whileBusy_fst, hask, Desk.launch_result]
    rfl
  · rw [hask]
    exact (Desk.worked_launch e i rfl).1

/-- A question adds its invocation to the record, if it has one. -/
theorem whileBusy_ask_invocations (question : String) :
    (Desk.whileBusy (p.ask e question) d).2.invocations
      = d.invocations ++ (p.questionInvocation? question).toList := by
  cases h : p.questionInvocation? question with
  | none =>
    rw [Desk.whileBusy_invocations, p.ask_of_none e d.busy h, Option.toList_none, List.append_nil,
      Desk.busy]
  | some i => exact (p.whileBusy_ask_of_some e d h).2.invocations

end ZoneAccess.Pipeline

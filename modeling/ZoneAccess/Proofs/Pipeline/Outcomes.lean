import ZoneAccess.Proofs.Engine.Verdicts
import ZoneAccess.Proofs.Pipeline.Launches

namespace ZoneAccess.Pipeline

/-!
# Outcomes of the pipeline

A setup check and a question come to an outcome of a kind of their own, and every failure says
something.

* `checkSetup_cases` — a setup check is a success that begins with the version, or a setup error;
* `ask_cases` — a question is answered with the stdout of a run that exited with 0, or comes to a
  runtime error;
* `outcomes_explained` — both together, and the two branches that are there but never taken.
-/

variable {σ : Type} (p : Pipeline) (fs : FileSystem) (e : Engine σ) (d : Desk σ)

/-! ### The tests of a setup check -/

/-- A version begins with a character that is not blank. -/
theorem exists_head_of_versionFrom {program version : String}
    {result : Except EngineError Report} (h : versionFrom program result = .ok version) :
    ∃ c rest, version.toList = c :: rest ∧ Text.isBlank c = false := by
  cases result with
  | error problem => cases problem <;> cases h
  | ok r =>
    rw [versionFrom] at h
    split at h
    · split at h
      · next hline => exact Text.exists_head_of_firstFullLine? (Except.ok.inj h ▸ hline)
      · cases h
    · cases h

/-- If the engine does not say its version, the message says something. -/
theorem hasInk_of_versionFrom {program m : String} {result : Except EngineError Report}
    (h : versionFrom program result = .error m) : Text.hasInk m = true := by
  -- Whatever went wrong, the message begins with words that are fixed.
  cases result with
  | error problem =>
    cases problem with
    | notFound name =>
      have hstart : Text.hasInk "inference engine executable '" = true := by decide
      rw [← Except.error.inj h]
      exact Text.hasInk_append_append hstart _ _
    | notStarted name cause =>
      rw [← Except.error.inj h]
      exact EngineError.hasInk_message _
    | lost name cause =>
      rw [← Except.error.inj h]
      exact EngineError.hasInk_message _
  | ok r =>
    rw [versionFrom] at h
    split at h
    · split at h
      · cases h
      · have hstart : Text.hasInk "inference engine '" = true := by decide
        rw [← Except.error.inj h]
        exact Text.hasInk_append_append hstart _ _
    · have hstart : Text.hasInk "'" = true := by decide
      rw [← Except.error.inj h]
      exact Text.hasInk_append_of_left (Text.hasInk_append_append hstart _ _) _

/-- A resource that is not there is told by its label. -/
theorem hasInk_of_verifyResource {label : String} {path : Bytes} {m : String}
    (hlabel : Text.hasInk label = true) (h : verifyResource fs label path = .error m) :
    Text.hasInk m = true := by
  rw [verifyResource] at h
  -- Each way to refuse a path begins with the label.
  split at h
  · rw [← Except.error.inj h]
    exact Text.hasInk_append_append hlabel _ _
  · split at h
    · cases h
    · rw [← Except.error.inj h]
      exact Text.hasInk_append_append (Text.hasInk_append_append hlabel _ _) _ _
  · rw [← Except.error.inj h]
    exact Text.hasInk_append_of_left (Text.hasInk_append_append hlabel _ _) _

/-- If the probe does not confirm that both files were loaded, the message says something. -/
theorem hasInk_of_confirmLoad {result : Except EngineError Report} {m : String}
    (h : confirmLoad result = .error m) : Text.hasInk m = true := by
  cases result with
  | error problem =>
    rw [← Except.error.inj h]
    exact problem.hasInk_message
  | ok r =>
    rw [confirmLoad] at h
    split at h
    · split at h
      · cases h
      · split at h
        · rw [← Except.error.inj h]
          decide
        · have hstart : Text.hasInk
              "trial load did not confirm both files loaded; engine printed: " = true := by decide
          rw [← Except.error.inj h]
          exact Text.hasInk_append_of_left hstart _
    · have hstart : Text.hasInk "failed to load rule base and grammar: " = true := by decide
      rw [← Except.error.inj h]
      exact Text.hasInk_append_of_left hstart _

/-! ### Setup checks and questions -/

/-- **A setup check is a success or a setup error.** The message of a success begins with the
    version, and hence with a character that is not blank; that of an error says something. -/
theorem checkSetup_cases :
    (∃ m c rest, (p.checkSetup fs e d).1 = .success m ∧ m.toList = c :: rest ∧
      Text.isBlank c = false) ∨
    ∃ m, (p.checkSetup fs e d).1 = .setupError m ∧ Text.hasInk m = true := by
  have hcourse := p.checkSetup_course fs e d
  generalize p.checkSetup fs e d = result at hcourse
  cases hcourse with
  | noVersion hversion => exact .inr ⟨_, rfl, hasInk_of_versionFrom hversion⟩
  | noRuleBase _ hruleBase => exact .inr ⟨_, rfl, hasInk_of_verifyResource fs (by decide) hruleBase⟩
  | noGrammar _ _ hgrammar => exact .inr ⟨_, rfl, hasInk_of_verifyResource fs (by decide) hgrammar⟩
  | notLoaded _ _ _ hload => exact .inr ⟨_, rfl, hasInk_of_confirmLoad hload⟩
  | ready hversion =>
    obtain ⟨c, rest, hchars, hblank⟩ := exists_head_of_versionFrom hversion
    refine .inl ⟨_, c, rest ++ "; rule base and grammar loaded".toList, rfl, ?_, hblank⟩
    rw [String.toList_append, hchars, List.cons_append]

/-- **A question is answered or comes to a runtime error.** It is answered with the trimmed stdout
    of the run that it was sent to, if that exited with 0 and does not begin with the error marker;
    an error says something. -/
theorem ask_cases (question : String) :
    (∃ i r, p.questionInvocation? question = some i ∧ (d.launch e i).1 = .ok r ∧
      r.termination = .exited 0 ∧ (p.ask e question d).1 = .success (Text.trim r.stdout) ∧
      Text.startsWith errorMarker (Text.trim r.stdout) = false) ∨
    ∃ m, (p.ask e question d).1 = .runtimeError m ∧ Text.hasInk m = true := by
  cases hi : p.questionInvocation? question with
  | none =>
    rw [p.ask_of_none e d hi]
    exact .inr ⟨noUsableQuery, rfl, by decide⟩
  | some i =>
    rw [p.ask_of_some e d hi]
    cases hresult : (d.launch e i).1 with
    | error problem => exact .inr ⟨problem.message, rfl, problem.hasInk_message⟩
    | ok r =>
      rcases r.verdict_query with ⟨hexited, hverdict, hmark⟩ | ⟨m, hverdict, hm⟩
      · exact .inl ⟨i, r, rfl, hresult, hexited, hverdict, hmark⟩
      · exact .inr ⟨m, hverdict, hm⟩

/-- **Every failure is classified and explained**, for every engine, program, paths, files and
    question:
    * a setup check is a success, whose message begins with a character that is not blank, or a
      setup error that says something;
    * a question is a success, with the trimmed stdout of its one run, which exited with 0 and does
      not begin with the error marker, or a runtime error that says something;
    * a question is not sent for one reason only, that it has no tokens;
    * wherever an error marker was written, one of the trimmed streams holds it, and what is quoted
      holds it too. -/
theorem outcomes_explained (question : String) :
    (match (p.checkSetup fs e d).1 with
      | .success m => ∃ c rest, m.toList = c :: rest ∧ Text.isBlank c = false
      | .setupError m => ∃ c ∈ m.toList, Text.isBlank c = false
      | .runtimeError _ => False) ∧
    (match (p.ask e question d).1 with
      | .success m => ∃ i r, (p.ask e question d).2.invocations = d.invocations ++ [i] ∧
          (d.launch e i).1 = .ok r ∧ r.termination = .exited 0 ∧ m = Text.trim r.stdout ∧
          Text.startsWith "ERROR:" m = false
      | .setupError _ => False
      | .runtimeError m => ∃ c ∈ m.toList, Text.isBlank c = false) ∧
    (∀ problem, Query.ofQuestion p.predicate question = .error problem → problem = .noTokens) ∧
    (∀ r : Report, r.mentionsError = true →
      (Text.occursIn "ERROR:" (Text.trim r.stderr) = true ∨
        Text.occursIn "ERROR:" (Text.trim r.stdout) = true) ∧
      r.errorReport ≠ "engine reported an error while loading") := by
  refine ⟨?_, ?_, fun problem h => ?_, fun r h => ⟨Report.exists_mark_of_mentionsError h, ?_⟩⟩
  · rcases p.checkSetup_cases fs e d with ⟨m, c, rest, hsetup, hchars, hblank⟩ | ⟨m, hsetup, hm⟩
    · rw [hsetup]
      exact ⟨c, rest, hchars, hblank⟩
    · rw [hsetup]
      exact Text.hasInk_iff.mp hm
  · rcases p.ask_cases e d question with ⟨i, r, hi, hrun, hexited, hask, hmark⟩ | ⟨m, hask, hm⟩
    · rw [hask]
      refine ⟨i, r, ?_, hrun, hexited, rfl, hmark⟩
      rw [p.ask_of_some e d hi]
      exact Desk.launch_invocations e i d
    · rw [hask]
      exact Text.hasInk_iff.mp hm
  · by_cases htokens : Question.tokens question = []
    · rw [Query.ofQuestion_of_no_tokens htokens] at h
      exact (Except.error.inj h).symm
    · rw [Query.ofQuestion_of_tokens htokens] at h
      cases h
  · -- What is quoted holds the marker, which these words do not.
    intro hfallback
    have hmark := Report.occursIn_errorReport h
    rw [hfallback] at hmark
    exact absurd hmark (by decide)

end ZoneAccess.Pipeline

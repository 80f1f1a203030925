import ZoneAccess.Proofs.Engine.Classification
import ZoneAccess.Proofs.Pipeline.Launches
import ZoneAccess.Proofs.Text.Lines

namespace ZoneAccess

/-!
# When a setup is ready

A setup check finds out whether questions can be asked, and else reports the first thing that is
wrong.

* `SaysVersion`, `FileSystem.OpensFile`, `ConfirmsLoad` — what has to hold of the engine's answer to
  the first probe, of each file, and of the answer to the second probe;
* `versionFrom_eq_ok_iff`, `verifyResource_eq_ok_iff`, `confirmLoad_eq_ok_iff` — the tests find out
  exactly that;
* `Condition`, `FirstFault` — the four conditions in order, and what is reported of the first that
  does not hold;
* `checkSetup_ready` — a setup check succeeds if all conditions hold, and reports the first fault if
  not, with no more invocations than it takes to find it.
-/

/-- A path leads to a regular file, links followed, and the file can be opened. -/
def FileSystem.OpensFile (fs : FileSystem) (path : Bytes) : Prop :=
  ∃ place entry, fs.look [Path.slash] path = .ok (place, .file entry) ∧ entry.refusal = none

namespace Pipeline

/-! ### The conditions -/

/-- The engine ran, exited with 0 and said its version: the first line of its stdout that is not
    blank, without the blanks around it. -/
def SaysVersion (result : Except EngineError Report) (version : String) : Prop :=
  ∃ r, result = .ok r ∧ r.termination = .exited 0 ∧ Text.FirstFullLine r.stdout version

/-- The engine ran, exited with 0 and wrote the sentinel to its stdout, and there is no error marker
    in what it wrote. -/
def ConfirmsLoad (result : Except EngineError Report) : Prop :=
  ∃ r, result = .ok r ∧ r.termination = .exited 0 ∧
    Text.occursIn Directive.sentinel r.stdout = true ∧
    Text.occursIn "ERROR:" r.stdout = false ∧ Text.occursIn "ERROR:" r.stderr = false

/-- The version is found exactly if the engine says it. -/
theorem versionFrom_eq_ok_iff {program version : String} {result : Except EngineError Report} :
    versionFrom program result = .ok version ↔ SaysVersion result version := by
  constructor
  · intro h
    -- Only a report with status 0 and a line that is not blank comes to a version.
    cases result with
    | error problem => cases problem <;> cases h
    | ok r =>
      rw [versionFrom] at h
      split at h
      · next hexit =>
        split at h
        · next hline =>
          rw [Except.ok.inj h] at hline
          exact ⟨r, rfl, Report.exitStatus?_eq_some_iff.mp hexit,
            Text.firstFullLine?_eq_some_iff.mp hline⟩
        · cases h
      · cases h
  · rintro ⟨r, rfl, hexited, hline⟩
    rw [versionFrom, if_pos (Report.exitStatus?_eq_some_iff.mpr hexited),
      Text.firstFullLine?_eq_some_iff.mpr hline]

/-- A resource passes exactly if its path leads to a file that can be opened. -/
theorem verifyResource_eq_ok_iff {fs : FileSystem} {label : String} {path : Bytes} :
    verifyResource fs label path = .ok () ↔ fs.OpensFile path := by
  constructor
  · intro h
    rw [verifyResource] at h
    split at h
    · cases h
    · next hlook =>
      split at h
      · next hrefusal => exact ⟨_, _, hlook, hrefusal⟩
      · cases h
    · cases h
  · rintro ⟨place, entry, hlook, hrefusal⟩
    simp only [verifyResource, hlook, hrefusal]

/-- To trim a stream does not take the sentinel apart. -/
theorem occursIn_sentinel_trim (s : String) :
    Text.occursIn Directive.sentinel (Text.trim s) = Text.occursIn Directive.sentinel s :=
  Text.occursIn_trim_eq (by decide) (by decide) s

/-- The trial load passes exactly if it is confirmed. -/
theorem confirmLoad_eq_ok_iff {result : Except EngineError Report} :
    confirmLoad result = .ok () ↔ ConfirmsLoad result := by
  constructor
  · intro h
    cases result with
    | error problem => cases h
    | ok r =>
      rw [confirmLoad] at h
      split at h
      · next output hverdict =>
        split at h
        · next hsentinel =>
          obtain ⟨hexited, hmark, rfl⟩ := Report.verdict_setup_eq_success_iff.mp hverdict
          rw [occursIn_sentinel_trim] at hsentinel
          exact ⟨r, rfl, hexited, hsentinel, Bool.or_eq_false_iff.mp hmark⟩
        · split at h
          · cases h
          · cases h
      · cases h
  · rintro ⟨r, rfl, hexited, hsentinel, hmark⟩
    have hverdict : r.verdict .setup = .success (Text.trim r.stdout) :=
      Report.verdict_setup_eq_success_iff.mpr ⟨hexited, Bool.or_eq_false_iff.mpr hmark, rfl⟩
    rw [← occursIn_sentinel_trim] at hsentinel
    simp only [confirmLoad, hverdict, if_pos hsentinel]

/-! ### The first fault -/

/-- A condition for questions to be asked: what has to hold, and what is reported if it does not. -/
structure Condition where
  holds : Prop
  reports : String → Prop

/-- This is reported of the first condition that does not hold, whatever there is to say about those
    behind it. -/
inductive FirstFault : List Condition → String → Prop
  | here {c : Condition} {behind : List Condition} {m : String} :
      ¬ c.holds → c.reports m → FirstFault (c :: behind) m
  | later {c : Condition} {behind : List Condition} {m : String} :
      c.holds → FirstFault behind m → FirstFault (c :: behind) m

variable {σ : Type} (p : Pipeline) (fs : FileSystem) (e : Engine σ) (d : Desk σ)

/-- What the engine answers when it is asked for its version. -/
def probed : Except EngineError Report := (p.probeVersion e d).1

/-- What it answers to the trial load behind that. -/
def loaded : Except EngineError Report := (p.probeLoad e (p.probeVersion e d).2).1

/-- The conditions in order. -/
def conditions : List Condition := [
  ⟨∃ version, SaysVersion (p.probed e d) version,
    fun m => versionFrom p.program (p.probed e d) = .error m⟩,
  ⟨fs.OpensFile p.resources.ruleBase,
    fun m => verifyResource fs "rule base" p.resources.ruleBase = .error m⟩,
  ⟨fs.OpensFile p.resources.grammar,
    fun m => verifyResource fs "grammar" p.resources.grammar = .error m⟩,
  ⟨ConfirmsLoad (p.loaded e d), fun m => confirmLoad (p.loaded e d) = .error m⟩]

/-- There is something to load, and someone to load it. -/
def MayLoad : Prop :=
  (∃ version, SaysVersion (p.probed e d) version) ∧ fs.OpensFile p.resources.ruleBase ∧
    fs.OpensFile p.resources.grammar

/-- What a test finds if it holds does not hold when the test fails. -/
theorem not_of_error {α : Type} {test : Except String α} {m : String} {P : Prop}
    (h : test = .error m) (hfound : P → ∃ a, test = .ok a) : ¬ P := by
  intro hP
  obtain ⟨a, ha⟩ := hfound hP
  rw [ha] at h
  cases h

/-- A result that is refused as a version says none. -/
theorem not_saysVersion_of_error {program m : String} {result : Except EngineError Report}
    (h : versionFrom program result = .error m) : ¬ ∃ version, SaysVersion result version :=
  not_of_error h fun ⟨version, hversion⟩ => ⟨version, versionFrom_eq_ok_iff.mpr hversion⟩

/-- A path that is refused as a resource is not that of a file that opens. -/
theorem not_opensFile_of_error {label m : String} {path : Bytes}
    (h : verifyResource fs label path = .error m) : ¬ fs.OpensFile path :=
  not_of_error h fun hopens => ⟨(), verifyResource_eq_ok_iff.mpr hopens⟩

/-- A result that is refused as a load confirms none. -/
theorem not_confirmsLoad_of_error {m : String} {result : Except EngineError Report}
    (h : confirmLoad result = .error m) : ¬ ConfirmsLoad result :=
  not_of_error h fun hconfirms => ⟨(), confirmLoad_eq_ok_iff.mpr hconfirms⟩

/-! ### Setup checks -/

/-- A setup check succeeds with the version that the engine says, exactly if all conditions hold. -/
theorem checkSetup_eq_success_iff (version : String) :
    (p.checkSetup fs e d).1 = .success (version ++ "; rule base and grammar loaded") ↔
      SaysVersion (p.probed e d) version ∧ fs.OpensFile p.resources.ruleBase ∧
        fs.OpensFile p.resources.grammar ∧ ConfirmsLoad (p.loaded e d) := by
  have hcourse := p.checkSetup_course fs e d
  generalize p.checkSetup fs e d = result at hcourse
  -- Wherever the check stopped, the test that failed there is one of the conditions.
  cases hcourse with
  | noVersion hversion =>
    exact ⟨nofun, fun h => absurd ⟨version, h.1⟩ (not_saysVersion_of_error hversion)⟩
  | noRuleBase _ hruleBase =>
    exact ⟨nofun, fun h => absurd h.2.1 (not_opensFile_of_error fs hruleBase)⟩
  | noGrammar _ _ hgrammar =>
    exact ⟨nofun, fun h => absurd h.2.2.1 (not_opensFile_of_error fs hgrammar)⟩
  | notLoaded _ _ _ hload =>
    exact ⟨nofun, fun h => absurd h.2.2.2 (not_confirmsLoad_of_error hload)⟩
  | ready hversion hruleBase hgrammar hload =>
    have hfound : versionFrom p.program (p.probed e d) = .ok _ := hversion
    rw [Outcome.success.injEq, String.append_left_inj, ← versionFrom_eq_ok_iff, hfound,
      Except.ok.injEq]
    exact ⟨fun h => ⟨h, verifyResource_eq_ok_iff.mp hruleBase, verifyResource_eq_ok_iff.mp hgrammar,
      confirmLoad_eq_ok_iff.mp hload⟩, fun h => h.1⟩

/-- Unless all conditions hold, a setup check is a setup error that reports the first fault. -/
theorem checkSetup_firstFault :
    (∀ c ∈ p.conditions fs e d, c.holds) ∨
      ∃ m, (p.checkSetup fs e d).1 = .setupError m ∧ FirstFault (p.conditions fs e d) m := by
  have hcourse := p.checkSetup_course fs e d
  generalize p.checkSetup fs e d = result at hcourse
  -- The tests that were passed are the conditions in front of the one that failed.
  cases hcourse with
  | noVersion hversion =>
    exact .inr ⟨_, rfl, .here (not_saysVersion_of_error hversion) hversion⟩
  | noRuleBase hversion hruleBase =>
    exact .inr ⟨_, rfl, .later ⟨_, versionFrom_eq_ok_iff.mp hversion⟩
      (.here (not_opensFile_of_error fs hruleBase) hruleBase)⟩
  | noGrammar hversion hruleBase hgrammar =>
    exact .inr ⟨_, rfl, .later ⟨_, versionFrom_eq_ok_iff.mp hversion⟩
      (.later (verifyResource_eq_ok_iff.mp hruleBase)
        (.here (not_opensFile_of_error fs hgrammar) hgrammar))⟩
  | notLoaded hversion hruleBase hgrammar hload =>
    exact .inr ⟨_, rfl, .later ⟨_, versionFrom_eq_ok_iff.mp hversion⟩
      (.later (verifyResource_eq_ok_iff.mp hruleBase)
        (.later (verifyResource_eq_ok_iff.mp hgrammar)
          (.here (not_confirmsLoad_of_error hload) hload)))⟩
  | ready hversion hruleBase hgrammar hload =>
    refine .inl (List.forall_mem_cons.mpr ⟨⟨_, versionFrom_eq_ok_iff.mp hversion⟩, ?_⟩)
    refine List.forall_mem_cons.mpr ⟨verifyResource_eq_ok_iff.mp hruleBase, ?_⟩
    refine List.forall_mem_cons.mpr ⟨verifyResource_eq_ok_iff.mp hgrammar, ?_⟩
    exact List.forall_mem_singleton.mpr (confirmLoad_eq_ok_iff.mp hload)

/-- The second probe is made exactly if there is a version and both files can be opened. -/
theorem checkSetup_invocations :
    (p.MayLoad fs e d →
      (p.checkSetup fs e d).2.invocations = d.invocations ++ p.probes) ∧
    (¬ p.MayLoad fs e d →
      (p.checkSetup fs e d).2.invocations = d.invocations ++ [.version p.program]) := by
  have hversion := p.probeVersion_invocations e d
  have hload := p.probeLoad_invocations e d
  have hcourse := p.checkSetup_course fs e d
  generalize p.checkSetup fs e d = result at hcourse
  cases hcourse with
  | noVersion h => exact ⟨fun hmay => absurd hmay.1 (not_saysVersion_of_error h), fun _ => hversion⟩
  | noRuleBase _ h =>
    exact ⟨fun hmay => absurd hmay.2.1 (not_opensFile_of_error fs h), fun _ => hversion⟩
  | noGrammar _ _ h =>
    exact ⟨fun hmay => absurd hmay.2.2 (not_opensFile_of_error fs h), fun _ => hversion⟩
  | notLoaded h hruleBase hgrammar | ready h hruleBase hgrammar =>
    have hmay : p.MayLoad fs e d := ⟨⟨_, versionFrom_eq_ok_iff.mp h⟩,
      verifyResource_eq_ok_iff.mp hruleBase, verifyResource_eq_ok_iff.mp hgrammar⟩
    exact ⟨fun _ => hload, fun hnot => absurd hmay hnot⟩

/-- **A setup check succeeds exactly if the setup is ready, and stops at the first fault.** For all
    pipelines, files and engines:
    * it is a success with a version exactly if the engine says this version, both files can be
      opened, and the trial load is confirmed;
    * such a version is not empty, has no blanks around it, and is a single line;
    * unless all four conditions hold, it is a setup error, with what is reported of the first that
      does not;
    * it asks for the version first and once, and tries to load the files once behind that, exactly
      if there is a version and both files can be opened. -/
theorem checkSetup_ready :
    (∀ version, (p.checkSetup fs e d).1 = .success (version ++ "; rule base and grammar loaded") ↔
      SaysVersion (p.probed e d) version ∧ fs.OpensFile p.resources.ruleBase ∧
        fs.OpensFile p.resources.grammar ∧ ConfirmsLoad (p.loaded e d)) ∧
    (∀ version, SaysVersion (p.probed e d) version →
      version ≠ "" ∧ Text.trim version = version ∧ '\n' ∉ version.toList) ∧
    ((∀ c ∈ p.conditions fs e d, c.holds) ∨
      ∃ m, (p.checkSetup fs e d).1 = .setupError m ∧ FirstFault (p.conditions fs e d) m) ∧
    (p.MayLoad fs e d → (p.checkSetup fs e d).2.invocations = d.invocations ++
      [.version p.program, .directive p.program (Directive.probe p.resources)]) ∧
    (¬ p.MayLoad fs e d →
      (p.checkSetup fs e d).2.invocations = d.invocations ++ [.version p.program]) := by
  obtain ⟨hboth, hfirst⟩ := p.checkSetup_invocations fs e d
  refine ⟨p.checkSetup_eq_success_iff fs e d, ?_, p.checkSetup_firstFault fs e d, hboth, hfirst⟩
  rintro version ⟨r, -, -, hline⟩
  exact hline.trimmed

/-- An engine that says its version on the second line and confirms the trial load; with a grammar
    behind a link, and with one that is a directory. -/
theorem checkSetup_ready_second_line :
    let fs : FileSystem := ⟨[([[107]], .file ⟨[], false, none⟩), ([[103]], .link [107]),
      ([[100]], .directory)]⟩
    let p (grammar : Bytes) : Pipeline :=
      ⟨⟨"process_tokens", rfl⟩, "swipl", ⟨[47, 107], grammar⟩⟩
    let d : Desk Script := Desk.fresh [
      ⟨false, .report ⟨.exited 0, " \r\n 9.2 \u2003\n64 bits", ""⟩⟩,
      ⟨false, .report ⟨.exited 0, "\nLEZ SETUP OK\n", "warning"⟩⟩]
    SaysVersion ((p [47, 103]).probed Script.engine d) "9.2" ∧ Text.trim "9.2" = "9.2" ∧
    ((p [47, 103]).checkSetup fs Script.engine d).1
      = .success ("9.2" ++ "; rule base and grammar loaded") ∧
    (p [47, 103]).MayLoad fs Script.engine d ∧
    ((p [47, 103]).checkSetup fs Script.engine d).2.invocations = (p [47, 103]).probes ∧
    ¬ (p [47, 100]).MayLoad fs Script.engine d ∧
    ((p [47, 100]).checkSetup fs Script.engine d).2.invocations = [.version "swipl"] := by
  intro fs p d
  have hversion : SaysVersion ((p [47, 103]).probed Script.engine d) "9.2" :=
    ⟨_, rfl, rfl, Text.firstFullLine?_eq_some_iff.mp (by decide)⟩
  have hfile : fs.OpensFile [47, 107] := ⟨[[107]], ⟨[], false, none⟩, rfl, rfl⟩
  have hlink : fs.OpensFile [47, 103] := ⟨[[107]], ⟨[], false, none⟩, rfl, rfl⟩
  have hdirectory : ¬ fs.OpensFile [47, 100] :=
    not_opensFile_of_error fs (show verifyResource fs "grammar" [47, 100] = .error _ from rfl)
  have hload : ConfirmsLoad ((p [47, 103]).loaded Script.engine d) :=
    ⟨_, rfl, rfl, by decide, by decide, by decide⟩
  obtain ⟨hsuccess, htrimmed, -, hboth, -⟩ := checkSetup_ready (p [47, 103]) fs Script.engine d
  obtain ⟨-, -, -, -, hfirst⟩ := checkSetup_ready (p [47, 100]) fs Script.engine d
  have hmay : (p [47, 103]).MayLoad fs Script.engine d := ⟨⟨_, hversion⟩, hfile, hlink⟩
  have hnot : ¬ (p [47, 100]).MayLoad fs Script.engine d := fun h => hdirectory h.2.2
  exact ⟨hversion, (htrimmed _ hversion).2.1, (hsuccess _).mpr ⟨hversion, hfile, hlink, hload⟩,
    hmay, hboth hmay, hnot, hfirst hnot⟩

end Pipeline

end ZoneAccess

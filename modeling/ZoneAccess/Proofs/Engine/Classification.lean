import ZoneAccess.Proofs.Engine.Verdicts
import ZoneAccess.Proofs.Text.Padding

namespace ZoneAccess.Report

/-!
# What a verdict looks at

Of the report of a run only some parts count for what it means, and blanks around what was written
never do.

* `verdict_of_no_exit`, `verdict_of_failing_exit`, `verdict_query_of_exit`, `verdict_setup_of_exit`
  — the verdict for each way in which a run may end;
* `verdict_congr` — two reports that end alike and have the same trimmed streams mean the same;
* `verdict_setup_eq_success_iff` — when a setup run passes;
* `verdict_query_of_setup` — what passes as a setup run passes as a query, with the same message;
* `verdict_determined` — which parts of a report count, at both stages.
-/

variable {r r' : Report}

/-! ### Verdicts by the end of a run -/

/-- A run that did not exit is a runtime error, told by its end. -/
theorem verdict_of_no_exit (h : r.termination.exitStatus? = none) (stage : Stage) :
    r.verdict stage = .runtimeError r.termination.describe := by
  simp only [verdict, h]

/-- A failing exit is an error of its stage. -/
theorem verdict_of_failing_exit {status : Int} (h : r.termination = .exited status)
    (hstatus : status ≠ 0) (stage : Stage) : r.verdict stage = stage.failure r.exitMessage := by
  simp only [verdict, exitStatus?_eq_some_iff.mpr h, if_neg hstatus]

/-- What a run that exited with 0 answers to a query. -/
theorem verdict_query_of_exit (h : r.termination = .exited 0) :
    r.verdict .query =
      if Text.startsWith errorMarker (Text.trim r.stdout) then .runtimeError (Text.trim r.stdout)
      else .success (Text.trim r.stdout) := by
  rw [verdict, exitStatus?_eq_some_iff.mpr h]
  exact if_pos rfl

/-- What such a run says about the setup. -/
theorem verdict_setup_of_exit (h : r.termination = .exited 0) :
    r.verdict .setup =
      if r.mentionsError then .setupError r.errorReport else .success (Text.trim r.stdout) := by
  rw [verdict, exitStatus?_eq_some_iff.mpr h]
  exact if_pos rfl

/-! ### The error marker -/

/-- Only the trimmed streams count for whether there is an error marker. -/
theorem mentionsError_congr (hout : Text.trim r.stdout = Text.trim r'.stdout)
    (herr : Text.trim r.stderr = Text.trim r'.stderr) : r.mentionsError = r'.mentionsError := by
  rw [mentionsError, ← occursIn_errorMarker_trim r.stdout, hout, occursIn_errorMarker_trim,
    ← occursIn_errorMarker_trim r.stderr, herr, occursIn_errorMarker_trim, mentionsError]

/-- What is quoted of a run with an error marker: stderr if the marker is there, else stdout. -/
theorem errorReport_of_mentionsError (h : r.mentionsError = true) :
    r.errorReport = if Text.occursIn errorMarker r.stderr then Text.trim r.stderr
      else Text.trim r.stdout := by
  rw [errorReport, occursIn_errorMarker_trim, occursIn_errorMarker_trim]
  by_cases herr : Text.occursIn errorMarker r.stderr = true
  · rw [if_pos herr, if_pos herr]
  · -- One of the streams has the marker, and it is not stderr.
    have hout : Text.occursIn errorMarker r.stdout = true :=
      (Bool.or_eq_true_iff.mp h).resolve_right herr
    rw [if_neg herr, if_neg herr, if_pos hout]

/-! ### What counts -/

/-- **Reports that end alike and have the same trimmed streams mean the same**, at both stages. -/
theorem verdict_congr (hend : r.termination = r'.termination)
    (hout : Text.trim r.stdout = Text.trim r'.stdout)
    (herr : Text.trim r.stderr = Text.trim r'.stderr) (stage : Stage) :
    r.verdict stage = r'.verdict stage := by
  have hquoted : r.errorReport = r'.errorReport := by
    rw [errorReport, hout, herr, errorReport]
  have hexit : r.exitMessage = r'.exitMessage := by
    rw [exitMessage, herr, hend, exitMessage]
  unfold verdict
  rw [mentionsError_congr hout herr, hquoted, hexit, hout, hend]

/-- A setup run passes exactly if it exited with 0 and no stream holds the error marker. -/
theorem verdict_setup_eq_success_iff {m : String} :
    r.verdict .setup = .success m ↔
      r.termination = .exited 0 ∧ r.mentionsError = false ∧ m = Text.trim r.stdout := by
  constructor
  · intro h
    -- Of a run without a status, one with another than 0, and one with 0, only the last can pass.
    cases hstatus : r.termination.exitStatus? with
    | none =>
      rw [verdict_of_no_exit hstatus] at h
      cases h
    | some status =>
      have hexited := exitStatus?_eq_some_iff.mp hstatus
      by_cases hzero : status = 0
      · subst hzero
        rw [verdict_setup_of_exit hexited] at h
        split at h
        · cases h
        · next hmark => exact ⟨hexited, by simpa using hmark, (Outcome.success.inj h).symm⟩
      · rw [verdict_of_failing_exit hexited hzero] at h
        cases h
  · rintro ⟨hexited, hmark, rfl⟩
    rw [verdict_setup_of_exit hexited, hmark]
    exact if_neg Bool.false_ne_true

/-- **The setup is the stricter stage**: what passes there passes as a query. -/
theorem verdict_query_of_setup {m : String} (h : r.verdict .setup = .success m) :
    r.verdict .query = .success m := by
  obtain ⟨hexited, hmark, rfl⟩ := verdict_setup_eq_success_iff.mp h
  -- A stdout that begins with the marker would hold it.
  have hstart : ¬ Text.startsWith errorMarker (Text.trim r.stdout) = true := by
    intro hstart
    have hholds := Text.occursIn_of_startsWith hstart
    rw [occursIn_errorMarker_trim] at hholds
    rw [mentionsError, hholds] at hmark
    cases hmark
  rw [verdict_query_of_exit hexited, if_neg hstart]

/-- **Which parts of a report count.** For all reports:
    * a run that did not exit is a runtime error, and with the same end it is the same one, whatever
      was written, at both stages;
    * after a failing exit only the status and stderr count;
    * after an exit with 0, only stdout counts for a query;
    * blanks around either stream never count;
    * what passes as a setup run passes as a query with the same message, so that what fails as a
      query fails as a setup run;
    * after an exit with 0, a setup run failed exactly if the error marker stands in a stream, and
      its message is then the trimmed stderr if the marker stands there, else the trimmed stdout. -/
theorem verdict_determined :
    (∀ r : Report, r.termination.exitStatus? = none →
      ∀ stage, ∃ m, r.verdict stage = .runtimeError m) ∧
    (∀ r r' : Report, r.termination.exitStatus? = none → r.termination = r'.termination →
      ∀ stage stage', r.verdict stage = r'.verdict stage') ∧
    (∀ (r r' : Report) (status : Int), status ≠ 0 → r.termination = .exited status →
      r'.termination = .exited status → r.stderr = r'.stderr →
        ∀ stage, r.verdict stage = r'.verdict stage) ∧
    (∀ r r' : Report, r.termination = .exited 0 → r'.termination = .exited 0 →
      r.stdout = r'.stdout → r.verdict .query = r'.verdict .query) ∧
    (∀ r r' : Report, r.termination = r'.termination → Text.Pads r.stdout r'.stdout →
      Text.Pads r.stderr r'.stderr → ∀ stage, r.verdict stage = r'.verdict stage) ∧
    (∀ r : Report, ∀ m, r.verdict .setup = .success m → r.verdict .query = .success m) ∧
    (∀ r : Report, (r.verdict .query).isSuccess = false → (r.verdict .setup).isSuccess = false) ∧
    (∀ r : Report, r.termination = .exited 0 → ∀ m, r.verdict .setup = .setupError m ↔
      (Text.occursIn "ERROR:" r.stdout = true ∨ Text.occursIn "ERROR:" r.stderr = true) ∧
        m = if Text.occursIn "ERROR:" r.stderr then Text.trim r.stderr
          else Text.trim r.stdout) := by
  -- Each part is about one kind of end, for which the verdict is known.
  refine ⟨fun r h stage => ⟨_, verdict_of_no_exit h stage⟩, ?_, ?_, ?_, ?_,
    fun r m => verdict_query_of_setup, ?_, ?_⟩
  · intro r r' h hend stage stage'
    rw [verdict_of_no_exit h, hend, verdict_of_no_exit (hend ▸ h)]
  · intro r r' status hstatus hr hr' herr stage
    rw [verdict_of_failing_exit hr hstatus, verdict_of_failing_exit hr' hstatus, exitMessage, herr,
      hr, ← hr', exitMessage]
  · intro r r' hr hr' hout
    rw [verdict_query_of_exit hr, hout, verdict_query_of_exit hr']
  · intro r r' hend hout herr stage
    exact verdict_congr hend (Text.trim_eq_of_pads hout).symm (Text.trim_eq_of_pads herr).symm stage
  · intro r h
    cases hsetup : r.verdict .setup with
    | success m =>
      rw [verdict_query_of_setup hsetup] at h
      cases h
    | setupError m => rfl
    | runtimeError m => rfl
  · intro r hr m
    rw [verdict_setup_of_exit hr, ← Bool.or_eq_true_iff]
    by_cases hmark : r.mentionsError = true
    · rw [if_pos hmark, Outcome.setupError.injEq, errorReport_of_mentionsError hmark]
      exact ⟨fun h => ⟨hmark, h.symm⟩, fun h => h.2.symm⟩
    · rw [if_neg hmark]
      exact ⟨fun h => (by cases h), fun h => absurd h.1 hmark⟩

/-- Two runs that were killed, two that failed, and runs that exited with 0: one with the error
    marker late in both streams, the same with blanks around them, and one without it. -/
theorem verdict_determined_late_marker :
    let killed (out err : String) : Report := ⟨.signalled (some 9), out, err⟩
    let failed (out : String) : Report := ⟨.exited 2, out, " no file\n"⟩
    let marked : Report := ⟨.exited 0, "9.2 ERROR: a", "late ERROR: b"⟩
    let padded : Report := ⟨.exited 0, "\u20039.2 ERROR: a\n", "late ERROR: b\r\n"⟩
    let clean : Report := ⟨.exited 0, "9.2\n", "warning"⟩
    (∃ m, (killed "yes" "").verdict .setup = .runtimeError m) ∧
    (killed "yes" "").verdict .setup = (killed "" "ERROR: c").verdict .query ∧
    (failed "yes").verdict .setup = (failed "ERROR: c").verdict .setup ∧
    clean.verdict .query = { clean with stderr := "ERROR: c" }.verdict .query ∧
    Text.Pads marked.stdout padded.stdout ∧ Text.Pads marked.stderr padded.stderr ∧
    marked.verdict .setup = padded.verdict .setup ∧
    padded.verdict .setup = .setupError "late ERROR: b" ∧
    clean.verdict .setup = .success "9.2" ∧ clean.verdict .query = .success "9.2" ∧
    ((killed "yes" "").verdict .query).isSuccess = false ∧
    ((killed "yes" "").verdict .setup).isSuccess = false := by
  intro killed failed marked padded clean
  have hclean : clean.verdict .setup = .success "9.2" := by decide +revert
  have hmark : Text.occursIn "ERROR:" padded.stdout = true := by decide +revert
  have hquoted : "late ERROR: b" = if Text.occursIn "ERROR:" padded.stderr
      then Text.trim padded.stderr else Text.trim padded.stdout := by decide +revert
  have hout : Text.Pads marked.stdout padded.stdout :=
    ⟨"\u2003", "\n", List.all_eq_true.mp rfl, List.all_eq_true.mp rfl, by decide⟩
  have herr : Text.Pads marked.stderr padded.stderr :=
    ⟨"", "\r\n", List.all_eq_true.mp rfl, List.all_eq_true.mp rfl, by decide⟩
  obtain ⟨herror, hkilled, hfailed, hquery, hpads, hsetup, hstrict, hmarked⟩ := verdict_determined
  exact ⟨herror _ rfl .setup, hkilled _ _ rfl rfl .setup .query,
    hfailed _ _ 2 (by decide) rfl rfl rfl .setup, hquery _ _ rfl rfl rfl, hout, herr,
    hpads marked padded rfl hout herr .setup, (hmarked padded rfl _).mpr ⟨.inl hmark, hquoted⟩,
    hclean, hsetup clean _ hclean, rfl, hstrict _ rfl⟩

end ZoneAccess.Report

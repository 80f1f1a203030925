import ZoneAccess.Proofs.Program.OneQuestion

namespace ZoneAccess

/-!
# What runs report

How outcomes and errors are written, and that a report of a failure is never blank.

* `Outcome.perform_write` — an outcome in a format is a text on one stream and one on the other;
* `Outcome.plainOut_eq_nil_iff` — in plain text, one of them is empty and the other is not;
* `Outcome.space_le_of_mem_record` — a record has no control characters, so that it is one line;
* `RunError.hasInk_message`, `Session.hasInk_setupReport`, `Outcome.hasInk_of_failure` — what went
  wrong is told.
-/

variable {σ : Type}

/-! ### What outcomes are written as -/

namespace Outcome

/-- What an outcome writes to stdout. -/
def outText (o : Outcome) : OutputFormat → String
  | .human => o.plainOut
  | .json => o.record ++ "\n"

/-- What an outcome writes to stderr. -/
def errText (o : Outcome) : OutputFormat → String
  | .human => o.plainErr
  | .json => ""

/-- An outcome in a format is its text on the one stream and on the other. -/
theorem perform_write (o : Outcome) (format : OutputFormat) (d : Desk σ) (out err : Bytes) :
    (o.write format).perform (.unlimited d out err)
      = (.ok (), .unlimited d (out ++ Utf8.encode (o.outText format))
          (err ++ Utf8.encode (o.errText format))) := by
  cases format with
  | human => exact o.perform_write_human d out err
  | json =>
    unfold write
    rw [Act.perform_bind, Act.perform_sayOr_unlimited]
    simp [outText, errText]

/-- In plain text, exactly one stream takes something. -/
theorem plainOut_eq_nil_iff (o : Outcome) :
    Utf8.encode o.plainOut = [] ↔ Utf8.encode o.plainErr ≠ [] := by
  have hfeed : Utf8.encode "\n" ≠ [] := by decide
  cases o with
  | success m => simp [plainOut, plainErr, hfeed]
  | setupError m => simp [plainOut, plainErr, hfeed]
  | runtimeError m => simp [plainOut, plainErr, hfeed]

/-- It is the one that is meant for the outcome. -/
theorem plain_eq_display (o : Outcome) :
    if o.isSuccess then Utf8.encode o.plainOut = Utf8.encode (o.display ++ "\n")
    else Utf8.encode o.plainErr = Utf8.encode (o.display ++ "\n") := by
  cases o with
  | success m => rfl
  | setupError m => rfl
  | runtimeError m => rfl

/-- No digit comes before the space. -/
theorem space_le_digitChar : ∀ d < 16, 0x20 ≤ (Nat.digitChar d).toNat := by decide

/-- A test of all characters is a bound for each. -/
theorem space_le_of_all {cs : List Char} (h : cs.all (0x20 ≤ ·.toNat) = true) :
    ∀ x ∈ cs, 0x20 ≤ x.toNat := by
  simpa using h

/-- Inside a record, control characters are escaped. -/
theorem space_le_of_mem_jsonChar (c : Char) : ∀ x ∈ jsonChar c, 0x20 ≤ x.toNat := by
  unfold jsonChar
  repeat' split
  -- Most of what is escaped has one character behind its backslash.
  any_goals (apply space_le_of_all; decide)
  · simp only [List.forall_mem_cons]
    exact ⟨by decide, by decide, by decide, by decide, space_le_digitChar _ (by omega),
      space_le_digitChar _ (by omega), nofun⟩
  · next hcontrol =>
    rw [List.forall_mem_singleton]
    omega

/-- So a record has none. -/
theorem space_le_of_mem_record (o : Outcome) : ∀ x ∈ o.record.toList, 0x20 ≤ x.toNat := by
  have hstring (cs : List Char) : ∀ x ∈ jsonString cs, 0x20 ≤ x.toNat := by
    unfold jsonString
    simp only [List.forall_mem_append, List.forall_mem_singleton, List.forall_mem_flatMap]
    exact ⟨⟨by decide, fun c _ => space_le_of_mem_jsonChar c⟩, by decide⟩
  unfold record recordChars
  simp only [String.toList_ofList, List.forall_mem_append]
  exact ⟨⟨⟨⟨space_le_of_all (by decide), hstring _⟩, space_le_of_all (by decide)⟩, hstring _⟩,
    space_le_of_all (by decide)⟩

/-- It is one line. -/
theorem lineFeed_not_mem_record (o : Outcome) : '\n' ∉ o.record.toList := by
  intro h
  exact absurd (o.space_le_of_mem_record '\n' h) (by decide)

/-- A failure is told, in either format. -/
theorem hasInk_of_failure {o : Outcome} (h : o.isSuccess = false) :
    Text.hasInk o.plainErr = true := by
  cases o with
  | success m => cases h
  | setupError m =>
    have hstart : Text.hasInk "setup error: " = true := by decide
    exact Text.hasInk_append_append hstart _ _
  | runtimeError m =>
    have hstart : Text.hasInk "error: " = true := by decide
    exact Text.hasInk_append_append hstart _ _

/-- A record is not blank. -/
theorem hasInk_record (o : Outcome) : Text.hasInk o.record = true := by
  rw [Text.hasInk_iff]
  refine ⟨'\x7b', ?_, by decide⟩
  unfold record recordChars
  simp

end Outcome

/-! ### What errors are told as -/

/-- The wording of every mistake on the command line says something. -/
theorem UsageError.hasInk_message (e : UsageError) : Text.hasInk e.message = true := by
  cases e with
  | help =>
    -- The information is long, and its first line is enough.
    have hstart :
        Text.hasInk "Check whether a vehicle may enter a low-emission zone.\n\n" = true := by
      decide
    unfold message helpText
    repeat refine Text.hasInk_append_of_left ?_ _
    exact hstart
  | _ => decide

/-- What ends a run early is told. -/
theorem RunError.hasInk_message (e : RunError) : Text.hasInk e.message = true := by
  cases e with
  | usage e => exact e.hasInk_message
  | settings faults =>
    have hstart : Text.hasInk "failed to load configuration: " = true := by decide
    exact Text.hasInk_append_of_left hstart _
  | logFilter filter =>
    have hstart : Text.hasInk "failed to initialise logging: invalid log filter: " = true := by
      decide
    exact Text.hasInk_append_of_left hstart _
  | entryPredicate e =>
    have hstart : Text.hasInk "invalid entry predicate in configuration: " = true := by decide
    exact Text.hasInk_append_of_left hstart _
  | readInput cause =>
    have hstart : Text.hasInk "failed to read input: " = true := by decide
    exact Text.hasInk_append_of_left hstart _
  | writeOutput cause =>
    have hstart : Text.hasInk "failed to write output: " = true := by decide
    exact Text.hasInk_append_of_left hstart _
  | serialiseOutcome cause =>
    have hstart : Text.hasInk "failed to serialise outcome: " = true := by decide
    exact Text.hasInk_append_of_left hstart _

/-- A bad setup is told in a session. -/
theorem Session.hasInk_setupReport (m : String) : Text.hasInk (setupReport m) = true := by
  have hstart : Text.hasInk "Setup error: " = true := by decide
  exact Text.hasInk_append_of_left (Text.hasInk_append_append hstart _ _) _

end ZoneAccess

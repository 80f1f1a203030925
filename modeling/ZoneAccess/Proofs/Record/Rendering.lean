import ZoneAccess.Proofs.Program.Reports
import ZoneAccess.Proofs.Record.Reader

namespace ZoneAccess.Outcome

/-!
# Nothing is lost when outcomes are written

* `space_le_of_mem_encode_record` — a record has no control characters among its bytes either;
* `record_inj` — outcomes with the same record are the same, as it is read back;
* `plain_inj` — so are outcomes that are the same in plain text, if both streams are looked at;
* `write_lossless` — what an outcome writes in either format, and that it tells the outcome.
-/

variable {σ : Type}

/-! ### Records -/

/-- The bytes of a record are no control characters. -/
theorem space_le_of_mem_encode_record (o : Outcome) :
    ∀ b ∈ Utf8.encode o.record, 0x20 ≤ b.toNat := by
  intro b hb
  obtain ⟨c, hc, hbyte⟩ := List.mem_flatMap.mp hb
  have hspace := o.space_le_of_mem_record c hc
  by_cases hascii : b.toNat < 0x80
  · rwa [← Utf8.toNat_of_mem_encodeChar hascii hbyte]
  · -- Bytes of other characters are beyond ASCII.
    omega

/-- Outcomes with the same record are the same. -/
theorem record_inj {o o' : Outcome} (h : o.record = o'.record) : o = o' := by
  have hread : some [("kind", o.kind.name), ("message", o.message)]
      = some [("kind", o'.kind.name), ("message", o'.message)] := by
    rw [← Json.read_record, ← Json.read_record, h]
  obtain ⟨hkind, hmessage⟩ : o.kind.name = o'.kind.name ∧ o.message = o'.message := by
    simpa using hread
  have hname {k k' : OutcomeKind} (h : k.name = k'.name) : k = k' := by
    revert h
    cases k <;> cases k' <;> decide
  rw [← o.ofKind_kind_message, ← o'.ofKind_kind_message, hname hkind, hmessage]

/-! ### Plain text -/

/-- Plain text of the one kind of failure is none of the other, whatever the messages say. -/
theorem setupError_text_ne (m m' : String) :
    "setup error: " ++ m ++ "\n" ≠ "error: " ++ m' ++ "\n" := by
  intro h
  have hfirst := congrArg (fun s : String => s.toList.head?) h
  simp at hfirst

/-- Outcomes that are the same in plain text are the same. -/
theorem plain_inj {o o' : Outcome} (hout : o.plainOut = o'.plainOut)
    (herr : o.plainErr = o'.plainErr) : o = o' := by
  cases o with
  | success m =>
    cases o' with
    | success m' => rw [(String.append_left_inj _).mp hout]
    | setupError m' => simp [plainOut] at hout
    | runtimeError m' => simp [plainOut] at hout
  | setupError m =>
    cases o' with
    | success m' => simp [plainOut] at hout
    | setupError m' =>
      rw [(String.append_right_inj _).mp ((String.append_left_inj _).mp herr)]
    | runtimeError m' => exact absurd herr (setupError_text_ne m m')
  | runtimeError m =>
    cases o' with
    | success m' => simp [plainOut] at hout
    | setupError m' => exact absurd herr.symm (setupError_text_ne m' m)
    | runtimeError m' =>
      rw [(String.append_right_inj _).mp ((String.append_left_inj _).mp herr)]

/-! ### Both formats -/

/-- Outcomes that are the same in a format are the same. -/
theorem text_inj {o o' : Outcome} {format : OutputFormat}
    (hout : o.outText format = o'.outText format)
    (herr : o.errText format = o'.errText format) : o = o' := by
  cases format with
  | human => exact plain_inj hout herr
  | json => exact record_inj ((String.append_left_inj _).mp hout)

/-- In plain text there is something on the stream that is meant for the outcome, and nothing on
    the other. -/
theorem perform_write_display (o : Outcome) (d : Desk σ) (out err : Bytes) :
    (o.write .human).perform (.unlimited d out err)
      = (.ok (), if o.isSuccess then .unlimited d (out ++ Utf8.encode (o.display ++ "\n")) err
          else .unlimited d out (err ++ Utf8.encode (o.display ++ "\n"))) := by
  rw [write]
  cases hsuccess : o.isSuccess with
  | true => rfl
  | false => rfl

/-- **Nothing is lost when outcomes are written.** Take streams that take everything, whatever they
    have taken before.
    * As a record, an outcome leaves stderr alone and is one line on stdout: a line feed ends it,
      and there is no control character before. The line is a JSON object, and read back it has the
      kind and the message of the outcome, whatever its characters are.
    * In plain text, one stream takes something, and the other nothing.
    * In each format, what both streams have taken tells the outcome. -/
theorem write_lossless (d : Desk σ) (out err : Bytes) :
    (∀ o : Outcome, ∃ line,
      (o.write .json).perform (.unlimited d out err)
        = (.ok (), .unlimited d (out ++ (line ++ [10])) err) ∧
      (∀ b ∈ line, 0x20 ≤ b.toNat) ∧
      (Utf8.decode? line).bind Json.read = some [("kind", o.kind.name), ("message", o.message)]) ∧
    (∀ o : Outcome, ∃ text, text ≠ [] ∧
      (o.write .human).perform (.unlimited d out err)
        = (.ok (), if o.isSuccess then .unlimited d (out ++ text) err
            else .unlimited d out (err ++ text))) ∧
    ∀ (format : OutputFormat) (o o' : Outcome),
      let written (o : Outcome) := ((o.write format).perform (.unlimited d out err)).2
      ((written o).out.stored, (written o).err.stored)
        = ((written o').out.stored, (written o').err.stored) ↔ o = o' := by
  have hfeed : Utf8.encode "\n" = [10] := rfl
  refine ⟨fun o => ⟨Utf8.encode o.record, ?_, o.space_le_of_mem_encode_record, ?_⟩,
    fun o => ⟨Utf8.encode (o.display ++ "\n"), ?_, o.perform_write_display d out err⟩,
    fun format o o' => ?_⟩
  · rw [o.perform_write, outText, errText, Utf8.encode_append, hfeed, Utf8.encode_empty,
      List.append_nil]
  · rw [Utf8.decode?_encode, Option.bind_some, Json.read_record]
  · rw [Utf8.encode_append, hfeed]
    exact List.append_ne_nil_of_right_ne_nil _ (by decide)
  · constructor
    · intro h
      simp only [perform_write] at h
      simp only [Console.unlimited, Prod.mk.injEq, List.append_cancel_left_eq,
        Utf8.encode_inj] at h
      exact text_inj h.1 h.2
    · rintro rfl
      rfl

end ZoneAccess.Outcome

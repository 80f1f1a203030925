import Mathlib
import ZoneAccess.Proofs.Duration.Amounts
import ZoneAccess.Proofs.Engine.Classification

namespace ZoneAccess

/-!
# Endings are told apart

The message for a run that did not exit tells how the run ended.

* `Termination.Kind`, `Termination.describe_eq` — the kinds of ending, and the wording of one as
  the opening of its kind with the details behind it;
* `Termination.Kind.eq_of_prefix` — no opening is the beginning of another;
* `Termination.describe_inj` — endings with the same wording are the same;
* `Report.verdict_tells_ending` — runs that did not exit have the same message only if they ended
  alike, and of a run that was stopped the message tells after which time.
-/

namespace Termination

/-- The kinds of ending that have a wording of their own. -/
inductive Kind
  | exited
  | signalled
  | unexplained
  | timedOut
  | interrupted
  deriving DecidableEq

/-- The words with which the wording of an ending begins. -/
def Kind.opening : Kind → String
  | exited => "engine exited with status "
  | signalled => "engine was terminated by signal "
  | unexplained => "engine was terminated without an exit status"
  | timedOut => "engine did not finish within "
  | interrupted => "query was interrupted"

/-- The kind of an ending. -/
def kind : Termination → Kind
  | exited _ => .exited
  | signalled (some _) => .signalled
  | signalled none => .unexplained
  | timedOut _ => .timedOut
  | interrupted => .interrupted

/-- The wording of an ending behind the opening of its kind. -/
def details : Termination → String
  | exited status => toString status
  | signalled (some signal) => toString signal
  | signalled none => ""
  | timedOut after => after.text ++ " and was stopped"
  | interrupted => ""

/-- The wording for the end of a run is the opening of its kind, and the details. -/
theorem describe_eq (t : Termination) : t.describe = t.kind.opening ++ t.details := by
  cases t with
  | exited status => rfl
  | signalled signal =>
    cases signal with
    | none => exact String.append_empty.symm
    | some signal => rfl
  | timedOut after => exact String.append_assoc
  | interrupted => exact String.append_empty.symm

/-- **No opening is the beginning of another.** -/
theorem Kind.eq_of_prefix {k k' : Kind} (h : k.opening.toList <+: k'.opening.toList) : k = k' := by
  revert h
  cases k <;> cases k' <;> decide

/-- Endings with the same wording are of the same kind and have the same details. -/
theorem kind_and_details_eq {t t' : Termination} (h : t.describe = t'.describe) :
    t.kind = t'.kind ∧ t.details = t'.details := by
  rw [describe_eq, describe_eq t'] at h
  have hkind : t.kind = t'.kind := by
    have hchars := congrArg String.toList h
    rw [String.toList_append, String.toList_append] at hchars
    have hleft : t.kind.opening.toList <+: t.kind.opening.toList ++ t.details.toList :=
      List.prefix_append _ _
    have hright : t'.kind.opening.toList <+: t.kind.opening.toList ++ t.details.toList := by
      rw [hchars]
      exact List.prefix_append _ _
    -- Both openings begin the same text, so the shorter begins the longer.
    cases List.prefix_or_prefix_of_prefix hleft hright with
    | inl hprefix => exact Kind.eq_of_prefix hprefix
    | inr hprefix => exact (Kind.eq_of_prefix hprefix).symm
  rw [hkind] at h
  exact ⟨hkind, (String.append_right_inj _).mp h⟩

/-- **Endings with the same wording are the same.** -/
theorem describe_inj {t t' : Termination} (h : t.describe = t'.describe) : t = t' := by
  obtain ⟨hkind, hdetails⟩ := kind_and_details_eq h
  -- Within a kind the details are a number, a duration or nothing, and each is told by its text.
  match t, t', hkind with
  | exited status, exited status', _ => rw [Int.repr_inj.mp hdetails]
  | signalled (some signal), signalled (some signal'), _ => rw [Int.repr_inj.mp hdetails]
  | signalled none, signalled none, _ => rfl
  | timedOut after, timedOut after', _ =>
    rw [Duration.text_inj ((String.append_left_inj _).mp hdetails)]
  | interrupted, interrupted, _ => rfl

end Termination

namespace Report

/-- **The message of a run that did not exit tells how it ended.**
    * Two such runs have the same message, each at either stage, exactly if they ended alike: with
      the same signal or with none that is known, after the same time, or by an interrupt.
    * The message of a run that was stopped holds the time after which it was. Its text is the one
      amount that writes this time, in the largest unit in which the whole part is not zero, exact
      and with no trailing zeros, and the amount is read back from the text.
    * Times with the same text are the same, in whatever units they are written. -/
theorem verdict_tells_ending :
    (∀ r r' : Report, r.termination.exitStatus? = none → r'.termination.exitStatus? = none →
      ∀ stage stage', (r.verdict stage).message = (r'.verdict stage').message ↔
        r.termination = r'.termination) ∧
    (∀ (r : Report) (after : Duration), r.termination = .timedOut after →
      ∀ stage, ∃ a : Amount, (∀ b : Amount, b.Writes after ↔ b = a) ∧ after.text = a.text ∧
        Amount.read? a.text = some a ∧
        (r.verdict stage).message
          = "engine did not finish within " ++ after.text ++ " and was stopped") ∧
    ∀ d d' : Duration, d.text = d'.text ↔ d = d' := by
  refine ⟨fun r r' h h' stage stage' => ?_, fun r after h stage => ?_, fun d d' => ?_⟩
  · rw [verdict_of_no_exit h, verdict_of_no_exit h']
    constructor
    · intro hmessage
      exact Termination.describe_inj hmessage
    · intro hend
      rw [hend]
  · obtain ⟨a, hwrites, htext⟩ := after.exists_amount
    have hstatus : r.termination.exitStatus? = none := by rw [h]; rfl
    refine ⟨a, fun b => ⟨fun hb => hb.unique hwrites, ?_⟩, htext, hwrites.read?_text, ?_⟩
    · rintro rfl
      exact hwrites
    · rw [verdict_of_no_exit hstatus, h]
      rfl
  · constructor
    · intro htext
      exact Duration.text_inj htext
    · rintro rfl
      rfl

/-- Runs that were stopped after a second and a nanosecond less than that, whose texts are in
    different units, and runs that were killed by a signal and by none that is known. -/
theorem verdict_tells_ending_near_a_second :
    let short : Duration := .ofNanos 999999999
    let long : Duration := .ofSecs 1
    let early : Report := ⟨.timedOut short, "yes", ""⟩
    let late : Report := ⟨.timedOut long, "", "ERROR: a"⟩
    let killed : Report := ⟨.signalled (some (-9)), "", ""⟩
    let lost : Report := ⟨.signalled none, "", ""⟩
    early.termination.exitStatus? = none ∧ late.termination.exitStatus? = none ∧
    killed.termination.exitStatus? = none ∧ lost.termination.exitStatus? = none ∧
    short.text = "999.999999ms" ∧ long.text = "1s" ∧
    (early.verdict .query).message ≠ (late.verdict .query).message ∧
    (killed.verdict .query).message ≠ (lost.verdict .setup).message ∧
    (early.verdict .query).message = (early.verdict .setup).message ∧
    (early.verdict .setup).message = "engine did not finish within 999.999999ms and was stopped" ∧
    short.text ≠ long.text := by
  intro short long early late killed lost
  have hshort : short.text = "999.999999ms" := by decide +revert
  have hlong : long.text = "1s" := by decide +revert
  obtain ⟨hends, hstopped, htexts⟩ := verdict_tells_ending
  have hwithin : (early.verdict .setup).message
      = "engine did not finish within 999.999999ms and was stopped" := by
    obtain ⟨-, -, -, -, hmessage⟩ := hstopped early short rfl .setup
    rw [hmessage, hshort]
    rfl
  exact ⟨rfl, rfl, rfl, rfl, hshort, hlong, (hends early late rfl rfl _ _).not.mpr (by decide),
    (hends killed lost rfl rfl _ _).not.mpr (by decide), (hends early early rfl rfl _ _).mpr rfl,
    hwithin, (htexts short long).not.mpr (by decide)⟩

end Report

end ZoneAccess

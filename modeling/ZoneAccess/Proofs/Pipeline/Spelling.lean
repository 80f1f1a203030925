import ZoneAccess.Proofs.Pipeline.Launches
import ZoneAccess.Proofs.Question.Words

namespace ZoneAccess.Question

open Text

/-!
# Punctuation and case do not reach the engine

* `Respelling` — one question is another with punctuation put in or left out anywhere, and letters
  of ASCII in the other case;
* `Respelling.tokenChars_eq_of_ignorable` — punctuation that lower-casing looks past makes no
  difference to the tokens, which full stops are;
* `Respelling.tokenChars_eq_of_no_sigma` — without a capital sigma, no noise does;
* `Pipeline.ask_respelled` — so that what is sent to the engine is the same, and what it comes to
  if the engine answers the same. Commas and question marks end a word for a capital sigma, and do
  make a difference to it.
-/

/-! ### Letters in either case -/

/-- What does not tell the 26 capitals of ASCII from their small letters tells no character from
    its small letter. -/
theorem apply_toLower {α : Type} {f : Char → α}
    (h : ∀ n < 26, f (Char.ofNat (0x41 + n)).toLower = f (Char.ofNat (0x41 + n))) (c : Char) :
    f c.toLower = f c := by
  by_cases hcapital : 0x41 ≤ c.toNat ∧ c.toNat ≤ 0x5A
  · have hc : Char.ofNat (0x41 + (c.toNat - 0x41)) = c := by
      rw [Nat.add_sub_cancel' hcapital.1, Char.ofNat_toNat]
    rw [← hc]
    exact h (c.toNat - 0x41) (by omega)
  · have hsmall : c.toLower = c := dif_neg hcapital
    rw [hsmall]

/-- The letters of ASCII lie outside the case-ignorable ranges. -/
theorem isCaseIgnorable_of_letter {c : Char}
    (h : 0x41 ≤ c.toNat ∧ c.toNat ≤ 0x5A ∨ 0x61 ≤ c.toNat ∧ c.toNat ≤ 0x7A) :
    isCaseIgnorable c = false := by
  -- The table is searched once, for ranges on either side of the letters.
  have htable : (caseIgnorableRanges.all fun range => Nat.blt range.2 0x41 ||
      Nat.blt 0x5A range.1 && Nat.blt range.2 0x61 || Nat.blt 0x7A range.1) = true := by
    decide +kernel
  rw [← Bool.not_eq_true, isCaseIgnorable, inRanges, List.any_eq_true]
  rintro ⟨range, hrange, hmem⟩
  have houtside := List.all_eq_true.mp htable range hrange
  simp only [Bool.or_eq_true, Bool.and_eq_true, Nat.blt_eq] at houtside
  simp only [Bool.and_eq_true, decide_eq_true_eq] at hmem
  omega

/-- An ASCII capital and its small letter have one lower-case form. -/
theorem lowerChar_toLower (c : Char) : lowerChar c.toLower = lowerChar c := by
  refine apply_toLower (fun n hn => ?_) c
  have hform : ∀ n < 26, lowerChar (Char.ofNat (0x41 + n)) = [(Char.ofNat (0x41 + n)).toLower] := by
    decide
  rw [hform n hn]
  exact lowerChar_of_mem_lowerChar (by rw [hform n hn]; exact List.mem_singleton.mpr rfl)

/-- Either of them has case if the other has. -/
theorem isCased_toLower (c : Char) : isCased c.toLower = isCased c :=
  apply_toLower (by decide) c

/-- Either of them is passed over if the other is. -/
theorem isCaseIgnorable_toLower (c : Char) : isCaseIgnorable c.toLower = isCaseIgnorable c := by
  refine apply_toLower (fun n hn => ?_) c
  -- The numbers of the letters are enough, so that the table is not searched for each of them.
  have hletters : ∀ n < 26, (Char.ofNat (0x41 + n)).toNat = 0x41 + n ∧
      (Char.ofNat (0x41 + n)).toLower.toNat = 0x61 + n := by decide
  obtain ⟨hcapital, hsmall⟩ := hletters n hn
  rw [isCaseIgnorable_of_letter (by omega), isCaseIgnorable_of_letter (by omega)]

/-- To make ASCII letters small neither makes a capital sigma nor takes one away. -/
theorem toLower_eq_capitalSigma_iff (c : Char) : c.toLower = capitalSigma ↔ c = capitalSigma := by
  have hletter := apply_toLower (f := fun c => decide (c = capitalSigma)) (by decide) c
  simpa using hletter

section Letter

variable {c d : Char} (h : c.toLower = d.toLower)
include h

/-- Characters that differ in ASCII case have one lower-case form. -/
theorem lowerChar_eq_of_toLower_eq : lowerChar c = lowerChar d := by
  rw [← lowerChar_toLower c, h, lowerChar_toLower]

/-- Such characters have case both or neither. -/
theorem isCased_eq_of_toLower_eq : isCased c = isCased d := by
  rw [← isCased_toLower c, h, isCased_toLower]

/-- They are passed over both or neither. -/
theorem isCaseIgnorable_eq_of_toLower_eq : isCaseIgnorable c = isCaseIgnorable d := by
  rw [← isCaseIgnorable_toLower c, h, isCaseIgnorable_toLower]

/-- They are the capital sigma both or neither. -/
theorem eq_capitalSigma_iff_of_toLower_eq : c = capitalSigma ↔ d = capitalSigma := by
  rw [← toLower_eq_capitalSigma_iff c, h, toLower_eq_capitalSigma_iff]

end Letter

/-! ### Respellings -/

/-- The second text is the first with characters of some kind put in or left out anywhere, and
    letters of ASCII in the other case. -/
inductive Respelling (loose : Char → Bool) : List Char → List Char → Prop
  | nil : Respelling loose [] []
  | keep {c d cs ds} (letter : c.toLower = d.toLower) (rest : Respelling loose cs ds) :
    Respelling loose (c :: cs) (d :: ds)
  | insert {d cs ds} (isLoose : loose d = true) (rest : Respelling loose cs ds) :
    Respelling loose cs (d :: ds)
  | delete {c cs ds} (isLoose : loose c = true) (rest : Respelling loose cs ds) :
    Respelling loose (c :: cs) ds

section Noise

variable {c : Char} (h : isNoise c = true) (cs : List Char)
include h

/-- The small form of noise is noise, and is deleted. -/
theorem filter_lowerAfter_cons (before : List Char) :
    (lowerAfter before (c :: cs)).filter (fun c => !isNoise c)
      = (lowerAfter (c :: before) cs).filter fun c => !isNoise c := by
  rw [lowerAfter_cons, smallForm_of_isLetterless (isLetterless_of_isNoise h),
    List.singleton_append, List.filter_cons_of_neg (by simp [h])]

/-- So it is if the characters are lower-cased one by one. -/
theorem filter_flatMap_lowerChar_cons :
    ((c :: cs).flatMap lowerChar).filter (fun c => !isNoise c)
      = (cs.flatMap lowerChar).filter fun c => !isNoise c := by
  rw [List.flatMap_cons, lowerChar_of_isLetterless (isLetterless_of_isNoise h),
    List.singleton_append, List.filter_cons_of_neg (by simp [h])]

end Noise

namespace Respelling

variable {loose : Char → Bool} {cs ds : List Char}

section Ignorable

variable (hignorable : ∀ c, loose c = true → isCaseIgnorable c = true)
include hignorable

/-- A capital sigma looks past what is put in. -/
theorem meetsCased_eq (h : Respelling loose cs ds) : meetsCased cs = meetsCased ds := by
  -- What is loose is passed over, and what is kept has case in both texts or in neither.
  induction h with
  | nil => rfl
  | keep letter _ ih =>
    rw [meetsCased_cons, meetsCased_cons, isCaseIgnorable_eq_of_toLower_eq letter,
      isCased_eq_of_toLower_eq letter, ih]
  | insert isLoose _ ih => rw [meetsCased_cons, if_pos (hignorable _ isLoose), ih]
  | delete isLoose _ ih => rw [meetsCased_cons, if_pos (hignorable _ isLoose), ih]

/-- **A respelling lower-cases to the same letters**, if what stands before has the same effect on a
    final sigma. -/
theorem filter_lowerAfter_eq (hnoise : ∀ c, loose c = true → isNoise c = true)
    (h : Respelling loose cs ds) {before before' : List Char}
    (hbefore : meetsCased before = meetsCased before') :
    (lowerAfter before cs).filter (fun c => !isNoise c)
      = (lowerAfter before' ds).filter fun c => !isNoise c := by
  -- All that counts of what stands before is whether a sigma meets a cased character there.
  induction h generalizing before before' with
  | nil => rfl
  | @keep c d cs ds letter rest ih =>
    have hform : smallForm before c cs = smallForm before' d ds := by
      rw [smallForm, smallForm, smallSigma, smallSigma, hbefore, rest.meetsCased_eq hignorable,
        lowerChar_eq_of_toLower_eq letter]
      simp only [eq_capitalSigma_iff_of_toLower_eq letter]
    have hnext : meetsCased (c :: before) = meetsCased (d :: before') := by
      rw [meetsCased_cons, meetsCased_cons, isCaseIgnorable_eq_of_toLower_eq letter,
        isCased_eq_of_toLower_eq letter, hbefore]
    rw [lowerAfter_cons, lowerAfter_cons, List.filter_append, List.filter_append, hform, ih hnext]
  | @insert d cs ds isLoose rest ih =>
    have hnext : meetsCased before = meetsCased (d :: before') := by
      rw [meetsCased_cons, if_pos (hignorable d isLoose), hbefore]
    rw [filter_lowerAfter_cons (hnoise d isLoose), ih hnext]
  | @delete c cs ds isLoose rest ih =>
    have hnext : meetsCased (c :: before) = meetsCased before' := by
      rw [meetsCased_cons, if_pos (hignorable c isLoose), hbefore]
    rw [filter_lowerAfter_cons (hnoise c isLoose), ih hnext]

/-- **Noise that lower-casing looks past makes no difference to the tokens.** -/
theorem tokenChars_eq_of_ignorable (hnoise : ∀ c, loose c = true → isNoise c = true)
    (h : Respelling loose cs ds) : tokenChars cs = tokenChars ds := by
  rw [tokenChars, lower, h.filter_lowerAfter_eq hignorable hnoise rfl, tokenChars, lower]

end Ignorable

section Noise

variable (hnoise : ∀ c, loose c = true → isNoise c = true)
include hnoise

/-- No capital sigma is put in or left out. -/
theorem capitalSigma_mem_iff (h : Respelling loose cs ds) :
    capitalSigma ∈ cs ↔ capitalSigma ∈ ds := by
  have hne {c : Char} (hc : loose c = true) : capitalSigma ≠ c := by
    rintro rfl
    exact absurd (hnoise _ hc) (by decide)
  induction h with
  | nil => exact Iff.rfl
  | keep letter _ ih =>
    have hhead := eq_capitalSigma_iff_of_toLower_eq letter
    rw [List.mem_cons, List.mem_cons, eq_comm, hhead, eq_comm]
    exact or_congr_right ih
  | insert isLoose _ ih => simp [ih, hne isLoose]
  | delete isLoose _ ih => simp [ih, hne isLoose]

/-- Letter by letter, a respelling lower-cases to the same letters. -/
theorem filter_flatMap_lowerChar_eq (h : Respelling loose cs ds) :
    (cs.flatMap lowerChar).filter (fun c => !isNoise c)
      = (ds.flatMap lowerChar).filter fun c => !isNoise c := by
  induction h with
  | nil => rfl
  | keep letter _ ih =>
    rw [List.flatMap_cons, List.flatMap_cons, List.filter_append, List.filter_append,
      lowerChar_eq_of_toLower_eq letter, ih]
  | insert isLoose _ ih => rw [filter_flatMap_lowerChar_cons (hnoise _ isLoose), ih]
  | delete isLoose _ ih => rw [filter_flatMap_lowerChar_cons (hnoise _ isLoose), ih]

/-- **Without a capital sigma no noise makes a difference to the tokens.** -/
theorem tokenChars_eq_of_no_sigma (hsigma : capitalSigma ∉ cs) (h : Respelling loose cs ds) :
    tokenChars cs = tokenChars ds := by
  have hsigma' : capitalSigma ∉ ds := fun hmem => hsigma ((h.capitalSigma_mem_iff hnoise).mpr hmem)
  rw [tokenChars, lower_of_no_sigma hsigma, h.filter_flatMap_lowerChar_eq hnoise, tokenChars,
    lower_of_no_sigma hsigma']

end Noise

end Respelling

end ZoneAccess.Question

namespace ZoneAccess.Pipeline

open Question (Respelling)

variable {σ τ : Type} (p : Pipeline)

/-! ### What is sent -/

/-- The directive that a question comes to; none if it has no tokens. -/
def directive? (question : String) : Option String :=
  (Query.ofQuestion p.predicate question).toOption.map (Directive.query p.resources)

/-- What a question comes to is the invocation of its directive. -/
theorem questionInvocation?_eq (question : String) :
    p.questionInvocation? question
      = (p.directive? question).map (Invocation.directive p.program) := by
  rw [questionInvocation?, directive?, Option.map_map]
  rfl

/-- A directive depends on the tokens of a question only. -/
theorem directive?_congr {question variant : String}
    (h : Question.tokens variant = Question.tokens question) :
    p.directive? variant = p.directive? question := by
  rw [directive?, Query.ofQuestion, h, directive?, Query.ofQuestion]

/-- The directive of a question goes on record, if there is one. -/
theorem ask_invocations (e : Engine σ) (d : Desk σ) (question : String) :
    (p.ask e question d).2.invocations = d.invocations ++
      ((p.directive? question).map (Invocation.directive p.program)).toList := by
  rw [← p.questionInvocation?_eq]
  cases hi : p.questionInvocation? question with
  | none => rw [p.ask_of_none e d hi, Option.toList_none, List.append_nil]
  | some i => rw [p.ask_of_some e d hi, Desk.launch_invocations, Option.toList_some]

/-- Questions with one directive come to the same if the engines answer it alike. -/
theorem ask_outcome_congr (e : Engine σ) (d : Desk σ) (e' : Engine τ) (d' : Desk τ)
    {question variant : String} (h : p.directive? variant = p.directive? question)
    (hanswer : ∀ directive ∈ p.directive? question,
      (d.launch e (.directive p.program directive)).1
        = (d'.launch e' (.directive p.program directive)).1) :
    (p.ask e question d).1 = (p.ask e' variant d').1 := by
  have hinvocation := p.questionInvocation?_eq question
  have hvariant := p.questionInvocation?_eq variant
  rw [h] at hvariant
  cases hdirective : p.directive? question with
  | none =>
    rw [hdirective] at hinvocation hvariant
    rw [p.ask_of_none e d hinvocation, p.ask_of_none e' d' hvariant]
  | some directive =>
    rw [hdirective] at hinvocation hvariant
    rw [p.ask_of_some e d hinvocation, p.ask_of_some e' d' hvariant, hanswer directive hdirective]

/-! ### Questions that are spelled differently -/

/-- **Punctuation and case do not reach the engine.** Put in or leave out full stops anywhere in a
    question, and commas and question marks too if it has no capital sigma, and change the case of
    any letters of ASCII: the tokens are the same, the same directive is sent, or none for both, and
    if the engine answers it alike, the outcome is the same. With a capital sigma neither a comma
    nor a question mark may be put in. -/
theorem ask_respelled :
    (∀ question variant : String,
      Respelling (· == '.') question.toList variant.toList ∨
        Text.capitalSigma ∉ question.toList ∧
          Respelling (fun c => c == '?' || c == ',' || c == '.') question.toList variant.toList →
      Question.tokens variant = Question.tokens question ∧
      ∃ sent : Option String,
        ∀ (e : Engine σ) (d : Desk σ) (e' : Engine τ) (d' : Desk τ),
          (p.ask e question d).2.invocations
            = d.invocations ++ (sent.map (Invocation.directive p.program)).toList ∧
          (p.ask e' variant d').2.invocations
            = d'.invocations ++ (sent.map (Invocation.directive p.program)).toList ∧
          ((∀ directive ∈ sent, (d.launch e (.directive p.program directive)).1
              = (d'.launch e' (.directive p.program directive)).1) →
            (p.ask e question d).1 = (p.ask e' variant d').1)) ∧
    ∀ mark ∈ [',', '?'], ∃ question variant : String,
      Respelling (· == mark) question.toList variant.toList ∧
        Question.tokens variant ≠ Question.tokens question := by
  refine ⟨fun question variant h => ?_, ?_⟩
  · have hchars : Question.tokenChars variant.toList = Question.tokenChars question.toList := by
      rcases h with hfullStops | ⟨hsigma, hnoise⟩
      · -- A sigma looks past full stops, so there may be one.
        have hignorable : ∀ c : Char, (c == '.') = true → Text.isCaseIgnorable c = true := by
          intro c hc
          rw [beq_iff_eq.mp hc]
          decide
        have hdeleted : ∀ c : Char, (c == '.') = true → Question.isNoise c = true := by
          intro c hc
          rw [Question.isNoise, hc, Bool.or_true]
        exact (hfullStops.tokenChars_eq_of_ignorable hignorable hdeleted).symm
      · exact (hnoise.tokenChars_eq_of_no_sigma (fun _ hc => hc) hsigma).symm
    have htokens : Question.tokens variant = Question.tokens question := by
      rw [Question.tokens, hchars, Question.tokens]
    have hdirective := p.directive?_congr htokens
    refine ⟨htokens, p.directive? question, fun e d e' d' => ⟨p.ask_invocations e d question, ?_,
      p.ask_outcome_congr e d e' d' hdirective⟩⟩
    rw [← hdirective]
    exact p.ask_invocations e' d' variant
  · intro mark hmark
    rcases List.mem_cons.mp hmark with rfl | hmark
    · exact ⟨"ΑΣΑ", "ΑΣ,Α", .keep rfl (.keep rfl (.insert rfl (.keep rfl .nil))), by decide +kernel⟩
    · rw [List.mem_singleton.mp hmark]
      exact ⟨"ΑΣΑ", "ΑΣ?Α", .keep rfl (.keep rfl (.insert rfl (.keep rfl .nil))), by decide +kernel⟩

/-- Full stops around a capital sigma, and other noise in a question without one, for an engine that
    has been used before and one that has not. -/
theorem ask_respelled_sigma :
    let p : Pipeline := ⟨⟨"process_tokens", rfl⟩, "swipl", ⟨[47, 97], [47, 98]⟩⟩
    let fresh := Desk.fresh [⟨false, .report ⟨.exited 0, "You may enter.", ""⟩⟩]
    Respelling (· == '.') "VAN Σ".toList "v.aN .Σ".toList ∧
    Text.capitalSigma ∉ "e15?".toList ∧
    Respelling (fun c => c == '?' || c == ',' || c == '.') "e15?".toList "E,15".toList ∧
    Question.tokens "v.aN .Σ" = Question.tokens "VAN Σ" ∧
    (p.ask Script.engine "e15?" fresh).1
      = (p.ask Script.engine "E,15" { fresh with invocations := p.probes }).1 := by
  intro p fresh
  have hfullStops : Respelling (· == '.') "VAN Σ".toList "v.aN .Σ".toList :=
    .keep rfl (.insert rfl (.keep rfl (.keep rfl (.keep rfl (.insert rfl (.keep rfl .nil))))))
  have hsigma : Text.capitalSigma ∉ "e15?".toList := by decide
  have hnoise : Respelling (fun c => c == '?' || c == ',' || c == '.') "e15?".toList
      "E,15".toList :=
    .keep rfl (.insert rfl (.keep rfl (.keep rfl (.delete rfl .nil))))
  have hrespelled := (p.ask_respelled (σ := Script) (τ := Script)).1
  obtain ⟨-, sent, hsent⟩ := hrespelled "e15?" "E,15" (.inr ⟨hsigma, hnoise⟩)
  exact ⟨hfullStops, hsigma, hnoise, (hrespelled "VAN Σ" "v.aN .Σ" (.inl hfullStops)).1,
    (hsent Script.engine fresh Script.engine { fresh with invocations := p.probes }).2.2
      fun _ _ => rfl⟩

end ZoneAccess.Pipeline

import ZoneAccess.Proofs.Question.Words

namespace ZoneAccess.Question

open Text

/-!
# Tokens stay what they are

* `IsToken` — the form of tokens: something, without blanks and noise, each character its own small
  form;
* `isToken_of_mem_tokenChars` — whatever the question, its tokens are of this form;
* `IsToken.tokenChars_eq` — characters of this form are the one token of themselves;
* `tokens_stable` — hence the tokens of a question, written with blanks between them, make a
  question with the same tokens.
-/

/-- The form of tokens. -/
structure IsToken (t : List Char) : Prop where
  ne_nil : t ≠ []
  not_blank : ∀ c ∈ t, isBlank c = false
  not_noise : ∀ c ∈ t, isNoise c = false
  settled : ∀ c ∈ t, lowerChar c = [c]

/-- A word without blanks comes to a token, or to nothing. -/
theorem isToken_token {w : List Char} (h : ∀ c ∈ w, isBlank c = false) (hne : token w ≠ []) :
    IsToken (token w) where
  ne_nil := hne
  not_blank := not_isBlank_of_mem_token h
  not_noise c hc := by
    have hkept := (List.mem_filter.mp hc).2
    simpa using hkept
  settled _ hc := lowerChar_of_mem_lower (List.mem_filter.mp hc).1

/-- **Whatever a question comes to has the form of tokens.** -/
theorem isToken_of_mem_tokenChars {cs t : List Char} (h : t ∈ tokenChars cs) : IsToken t := by
  induction cs using blankInduction with
  | word w hw =>
    rw [tokenChars_of_no_blank hw] at h
    obtain ⟨hmem, hne⟩ := List.mem_filter.mp h
    rw [List.mem_singleton.mp hmem] at hne ⊢
    exact isToken_token hw (by simpa using hne)
  | blank w b rest hb hw hrest =>
    rw [tokenChars_append_cons hb] at h
    rcases List.mem_append.mp h with h | h
    · exact hw h
    · exact hrest h

namespace IsToken

variable {t : List Char} (ht : IsToken t)
include ht

/-- A token is its own small form: there is no capital in it, a capital sigma included. -/
theorem lower_eq : lower t = t := lower_of_settled ht.settled

/-- There is no noise to be deleted from it. -/
theorem token_eq : token t = t := by
  rw [token, ht.lower_eq, List.filter_eq_self]
  intro c hc
  rw [ht.not_noise c hc]
  rfl

/-- **A token is the one token of itself.** -/
theorem tokenChars_eq : tokenChars t = [t] := by
  rw [tokenChars_of_no_blank ht.not_blank, ht.token_eq, List.filter_cons_of_pos]
  · rfl
  · simpa using ht.ne_nil

end IsToken

/-- Tokens with blanks between them have themselves as tokens. -/
theorem tokenChars_intercalate_tokenChars {blanks : List Char} (hne : blanks ≠ [])
    (h : ∀ b ∈ blanks, isBlank b = true) (cs : List Char) :
    tokenChars (blanks.intercalate (tokenChars cs)) = tokenChars cs := by
  have heach : ∀ t ∈ tokenChars cs, tokenChars t = [t] := fun t ht =>
    (isToken_of_mem_tokenChars ht).tokenChars_eq
  rw [tokenChars_intercalate hne h, List.flatMap_def, List.map_congr_left heach,
    ← List.flatMap_def, List.flatMap_singleton']

/-- **Tokens stay what they are.** Each token of a question is not empty, has no blank, question
    mark, comma or full stop, and is not changed by lower-casing; and the tokens with blanks between
    them make a question with the same tokens. -/
theorem tokens_stable (question : String) :
    (∀ token ∈ tokens question, token ≠ "" ∧
      (∀ c ∈ token.toList, isBlank c = false ∧ c ≠ '?' ∧ c ≠ ',' ∧ c ≠ '.') ∧
      lower token.toList = token.toList) ∧
    ∀ blanks : String, blanks ≠ "" → (∀ b ∈ blanks.toList, isBlank b = true) →
      tokens (blanks.intercalate (tokens question)) = tokens question := by
  refine ⟨fun token h => ?_, fun blanks hne hblank => ?_⟩
  · obtain ⟨t, ht, rfl⟩ := List.mem_map.mp h
    have hform := isToken_of_mem_tokenChars ht
    rw [String.toList_ofList]
    refine ⟨by simpa using hform.ne_nil, fun c hc => ⟨hform.not_blank c hc, ?_⟩, hform.lower_eq⟩
    have hnoise := hform.not_noise c hc
    simp only [isNoise, Bool.or_eq_false_iff, beq_eq_false_iff_ne] at hnoise
    exact ⟨hnoise.1.1, hnoise.1.2, hnoise.2⟩
  · have hchars : blanks.toList ≠ [] := by simpa using hne
    have htokens : (tokens question).map String.toList = tokenChars question.toList := by
      simp [tokens, Function.comp_def]
    rw [tokens, String.toList_intercalate, htokens,
      tokenChars_intercalate_tokenChars hchars hblank, tokens]

/-- A token with both small sigmas, one of a dotted capital, and a separator of two blanks. -/
theorem tokens_stable_sigmas :
    "αςσ" ∈ tokens "ΑΣ?Σ  , İ.Σ." ∧ lower "αςσ".toList = "αςσ".toList ∧
    "\u00A0\n" ≠ "" ∧ (∀ b ∈ "\u00A0\n".toList, isBlank b = true) ∧
    tokens ("\u00A0\n".intercalate (tokens "ΑΣ?Σ  , İ.Σ.")) = ["αςσ", "i\u0307ς"] := by
  have hmem : "αςσ" ∈ tokens "ΑΣ?Σ  , İ.Σ." := by decide +kernel
  have hne : "\u00A0\n" ≠ "" := by decide
  have hblank : ∀ b ∈ "\u00A0\n".toList, isBlank b = true :=
    List.all_eq_true.mp (by decide)
  obtain ⟨htoken, hjoined⟩ := tokens_stable "ΑΣ?Σ  , İ.Σ."
  refine ⟨hmem, (htoken "αςσ" hmem).2.2, hne, hblank, (hjoined "\u00A0\n" hne hblank).trans ?_⟩
  decide +kernel

end ZoneAccess.Question

import ZoneAccess.Proofs.Text.SmallLetters
import ZoneAccess.Proofs.Text.Trimming
import ZoneAccess.Question

namespace ZoneAccess.Text

/-!
# Questions between blanks

A blank divides a question: what stands before it and what follows come down to tokens of
their own.

* `blankNumbers` — the blanks one by one, and what the letter tables say of them;
* `lower_append_cons` — lower-casing does not look across a blank, although a capital sigma
  looks at its neighbours;
* `Question.tokenChars_append_cons` — the tokens on both sides of a blank;
* `Question.tokens_trim` — blanks at the ends of a question make no difference.
-/

/-! ### Blanks in the tables -/

/-- The numbers of the blanks. -/
def blankNumbers : List Nat :=
  [9, 10, 11, 12, 13, 0x20, 0x85, 0xA0, 0x1680, 0x2000, 0x2001, 0x2002, 0x2003, 0x2004, 0x2005,
    0x2006, 0x2007, 0x2008, 0x2009, 0x200A, 0x2028, 0x2029, 0x202F, 0x205F, 0x3000]

/-- What holds of the numbers of the blanks holds of every blank. -/
theorem toNat_mem_blankNumbers {b : Char} (h : isBlank b = true) : b.toNat ∈ blankNumbers := by
  simp only [isBlank, Bool.or_eq_true, Bool.and_eq_true, decide_eq_true_eq, beq_iff_eq] at h
  simp only [blankNumbers, List.mem_cons, List.not_mem_nil, or_false]
  omega

/-- A blank has no case. -/
theorem isCased_of_isBlank {b : Char} (h : isBlank b = true) : isCased b = false := by
  -- There are few blanks, so the table is searched for each of them.
  have htable : ∀ n ∈ blankNumbers, inRanges casedRanges n = false := by decide +kernel
  exact htable b.toNat (toNat_mem_blankNumbers h)

/-- A blank is not passed over in the search for a cased letter. -/
theorem isCaseIgnorable_of_isBlank {b : Char} (h : isBlank b = true) :
    isCaseIgnorable b = false := by
  have htable : ∀ n ∈ blankNumbers, inRanges caseIgnorableRanges n = false := by decide +kernel
  exact htable b.toNat (toNat_mem_blankNumbers h)

/-- A blank is its own small form. -/
theorem lowerChar_of_isBlank {b : Char} (h : isBlank b = true) : lowerChar b = [b] :=
  lowerChar_of_isLetterless (isLetterless_of_isBlank h)

/-- A blank is not the capital sigma. -/
theorem ne_capitalSigma_of_isBlank {b : Char} (h : isBlank b = true) : b ≠ capitalSigma := by
  rintro rfl
  exact absurd h (by decide)

/-! ### Lower-casing between blanks -/

section Blank

variable {b : Char} (hb : isBlank b = true)
include hb

/-- What stands behind a blank is not met. -/
theorem meetsCased_append_cons (xs ys : List Char) :
    meetsCased (xs ++ b :: ys) = meetsCased xs := by
  induction xs with
  | nil =>
    simp [meetsCased, isCaseIgnorable_of_isBlank hb, isCased_of_isBlank hb]
  | cons x xs ih =>
    by_cases hx : isCaseIgnorable x = true
    · simpa [meetsCased, List.dropWhile_cons, hx] using ih
    · simp [meetsCased, hx]

/-- Lower-casing goes on behind a blank as if it began there. -/
theorem lowerAfter_append_cons (before xs cs : List Char) :
    lowerAfter (before ++ b :: xs) cs = lowerAfter before cs := by
  -- Only a capital sigma looks back, and it does not look past the blank.
  induction cs generalizing before with
  | nil => rfl
  | cons c cs ih =>
    have hsigma : smallSigma (before ++ b :: xs) cs = smallSigma before cs := by
      rw [smallSigma, smallSigma, meetsCased_append_cons hb]
    rw [lowerAfter, lowerAfter, hsigma, ← List.cons_append, ih]

/-- Up to a blank, lower-casing is that of what stands before it. -/
theorem lowerAfter_before_blank (before xs ys : List Char) :
    lowerAfter before (xs ++ b :: ys) = lowerAfter before xs ++ b :: lowerAfter [] ys := by
  induction xs generalizing before with
  | nil =>
    -- The blank itself: what comes behind it does not see `before`.
    show (if b = capitalSigma then _ else lowerChar b) ++ lowerAfter ([] ++ b :: before) ys = _
    rw [if_neg (ne_capitalSigma_of_isBlank hb), lowerChar_of_isBlank hb,
      lowerAfter_append_cons hb]
    rfl
  | cons x xs ih =>
    -- A sigma in front of the blank does not look ahead past it.
    have hsigma : smallSigma before (xs ++ b :: ys) = smallSigma before xs := by
      rw [smallSigma, smallSigma, meetsCased_append_cons hb]
    rw [List.cons_append, lowerAfter, lowerAfter, hsigma, ih, List.append_assoc]

/-- **Lower-casing divides at blanks.** -/
theorem lower_append_cons (xs ys : List Char) :
    lower (xs ++ b :: ys) = lower xs ++ b :: lower ys :=
  lowerAfter_before_blank hb [] xs ys

/-- A blank divides the words before it from those behind it. -/
theorem words_append_cons (xs ys : List Char) : words (xs ++ b :: ys) = words xs ++ words ys := by
  rw [words, cut_append_cons hb, List.filter_append, words, words]

end Blank

end ZoneAccess.Text

namespace ZoneAccess.Question

open Text

/-! ### Tokens between blanks -/

section Blank

variable {b : Char} (hb : isBlank b = true)
include hb

/-- A blank is no noise. -/
theorem isNoise_of_isBlank : isNoise b = false := by
  have hne : ∀ c : Char, isBlank c = false → (b == c) = false := by
    intro c hc
    rw [beq_eq_false_iff_ne]
    rintro rfl
    rw [hc] at hb
    exact absurd hb (by decide)
  rw [isNoise, hne '?' (by decide), hne ',' (by decide), hne '.' (by decide)]
  rfl

/-- **A blank divides a question**: its tokens are those before the blank, then those behind
    it. -/
theorem tokenChars_append_cons (xs ys : List Char) :
    tokenChars (xs ++ b :: ys) = tokenChars xs ++ tokenChars ys := by
  rw [tokenChars, lower_append_cons hb, List.filter_append, List.filter_cons_of_pos,
    words_append_cons hb]
  · rfl
  · rw [isNoise_of_isBlank hb]
    rfl

end Blank

/-- No characters make no tokens. -/
@[simp] theorem tokenChars_nil : tokenChars [] = [] := rfl

/-- Blanks have no tokens, in front of other characters or behind them. -/
theorem tokenChars_blanks_append {blanks : List Char} (h : ∀ b ∈ blanks, isBlank b = true)
    (cs : List Char) : tokenChars (blanks ++ cs) = tokenChars cs := by
  induction blanks with
  | nil => rfl
  | cons b blanks ih =>
    have hfirst := tokenChars_append_cons (h b List.mem_cons_self) [] (blanks ++ cs)
    rw [List.nil_append] at hfirst
    rw [List.cons_append, hfirst, tokenChars_nil, List.nil_append]
    exact ih fun c hc => h c (List.mem_cons_of_mem b hc)

/-- Blanks at the end of some characters make no difference to their tokens. -/
theorem tokenChars_append_blanks {blanks : List Char} (h : ∀ b ∈ blanks, isBlank b = true)
    (cs : List Char) : tokenChars (cs ++ blanks) = tokenChars cs := by
  cases blanks with
  | nil => rw [List.append_nil]
  | cons b blanks =>
    have hrest := tokenChars_blanks_append (fun c hc => h c (List.mem_cons_of_mem b hc)) []
    rw [List.append_nil, tokenChars_nil] at hrest
    rw [tokenChars_append_cons (h b List.mem_cons_self), hrest, List.append_nil]

/-- Nor do blanks at either end. -/
theorem tokenChars_trimmed (cs : List Char) : tokenChars (trimmed cs) = tokenChars cs := by
  obtain ⟨front, hfront, hcs⟩ := exists_append_trimFront cs
  obtain ⟨back, hback, htrimmed⟩ := exists_trimBack_append (trimFront cs)
  -- What trimming takes away at either end is blanks.
  have hskip : tokenChars cs = tokenChars (trimFront cs) := by
    conv => lhs; rw [hcs]
    exact tokenChars_blanks_append hfront _
  have hdrop : tokenChars (trimFront cs) = tokenChars (trimBack (trimFront cs)) := by
    conv => lhs; rw [htrimmed]
    exact tokenChars_append_blanks hback _
  rw [trimmed, hskip, hdrop]

/-- **Blanks at the ends of a question make no difference.** -/
theorem tokens_trim (text : String) : tokens (trim text) = tokens text := by
  rw [tokens, toList_trim, tokenChars_trimmed, tokens]

end ZoneAccess.Question

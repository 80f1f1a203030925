import ZoneAccess.Proofs.Question.Blanks
import ZoneAccess.Proofs.Text.SmallLetters

namespace ZoneAccess.Text

/-!
# Questions word by word

A question is lower-cased as a whole and cut into tokens afterwards; what comes out is that of its
words, each taken on its own.

* `blankInduction` — every text is made of words with blanks between them;
* `Question.token` — what a single word comes to, nothing if it is noise;
* `Question.tokenChars_eq_words` — the tokens of a question are those of its words;
* `Question.tokenChars_intercalate` — texts with blanks between them have their tokens in a row;
* `Question.tokens_word_by_word` — both on texts, with what follows for the number of tokens, and
  the lower-casing that all this is about.
-/

/-! ### Texts as words and blanks -/

/-- What holds of words, and of two texts with a blank between them if it holds of both, holds of
    every text. -/
theorem blankInduction {motive : List Char → Prop}
    (word : ∀ w, (∀ c ∈ w, isBlank c = false) → motive w)
    (blank : ∀ w b rest, isBlank b = true → motive w → motive rest → motive (w ++ b :: rest))
    (cs : List Char) : motive cs := by
  -- The word that is being read stands in front; each character goes on with it or ends it.
  have hreading (w : List Char) (hw : ∀ c ∈ w, isBlank c = false) : motive (w ++ cs) := by
    induction cs generalizing w with
    | nil =>
      rw [List.append_nil]
      exact word w hw
    | cons c cs ih =>
      cases hc : isBlank c with
      | true => exact blank w c cs hc (word w hw) (ih [] (by simp))
      | false =>
        have hlonger : ∀ d ∈ w ++ [c], isBlank d = false := by
          intro d hd
          rcases List.mem_append.mp hd with hd | hd
          · exact hw d hd
          · rwa [List.mem_singleton.mp hd]
        rw [List.append_cons]
        exact ih _ hlonger
  exact hreading [] (by simp)

/-- Characters without a blank are one word, if there are any. -/
theorem words_of_no_blank {w : List Char} (h : ∀ c ∈ w, isBlank c = false) :
    words w = [w].filter fun w => !w.isEmpty := by
  rw [words, cut_eq_singleton h]

end ZoneAccess.Text

namespace ZoneAccess.Question

open Text

/-! ### The token of a word -/

/-- What a word comes to: its small form without noise. -/
def token (w : List Char) : List Char := (lower w).filter fun c => !isNoise c

/-- A noise character has no letters in its case mappings. -/
theorem isLetterless_of_isNoise {c : Char} (h : isNoise c = true) : isLetterless c = true := by
  simp only [isNoise, Bool.or_eq_true, beq_iff_eq] at h
  rcases h with (rfl | rfl) | rfl <;> decide

/-- Small forms tell blanks. -/
theorem isBlank_of_mem_smallForm {before after : List Char} {c d : Char}
    (h : d ∈ smallForm before c after) : isBlank d = isBlank c :=
  kind_of_mem_smallForm (fun _ => isLetterless_of_isBlank) h

/-- Small forms tell noise. -/
theorem isNoise_of_mem_smallForm {before after : List Char} {c d : Char}
    (h : d ∈ smallForm before c after) : isNoise d = isNoise c :=
  kind_of_mem_smallForm (fun _ => isLetterless_of_isNoise) h

/-- Lower-casing makes no blanks. -/
theorem not_isBlank_of_mem_lower {w : List Char} (h : ∀ c ∈ w, isBlank c = false) :
    ∀ d ∈ lower w, isBlank d = false := by
  have hany : (lower w).any isBlank = false := by
    rw [any_lower (p := isBlank) fun _ _ _ _ hd => isBlank_of_mem_smallForm hd]
    simpa using h
  simpa using hany

/-- The token of a word without blanks has none. -/
theorem not_isBlank_of_mem_token {w : List Char} (h : ∀ c ∈ w, isBlank c = false) :
    ∀ d ∈ token w, isBlank d = false :=
  fun d hd => not_isBlank_of_mem_lower h d (List.mem_filter.mp hd).1

/-- **A word comes to nothing exactly if it is noise.** -/
theorem isEmpty_token (w : List Char) : (token w).isEmpty = w.all isNoise := by
  have hempty : (token w).isEmpty = (lower w).all isNoise := by
    rw [Bool.eq_iff_iff, List.isEmpty_iff, token, List.filter_eq_nil_iff, List.all_eq_true]
    simp
  -- Lower-casing makes noise of noise only, so it does not matter where that is looked for.
  have hlower : (lower w).any (fun c => !isNoise c) = w.any fun c => !isNoise c :=
    any_lower (p := fun c => !isNoise c)
      (fun _ _ _ _ hd => congrArg (!·) (isNoise_of_mem_smallForm hd)) w
  rw [hempty, List.all_eq_not_any_not, hlower, ← List.all_eq_not_any_not]

/-! ### The tokens of a question -/

/-- A word has its token, unless it comes to nothing. -/
theorem tokenChars_of_no_blank {w : List Char} (h : ∀ c ∈ w, isBlank c = false) :
    tokenChars w = [token w].filter fun t => !t.isEmpty :=
  words_of_no_blank (not_isBlank_of_mem_token h)

/-- **The tokens of a question are those of its words**, in order. -/
theorem tokenChars_eq_words (cs : List Char) :
    tokenChars cs = ((words cs).map token).filter fun t => !t.isEmpty := by
  induction cs using blankInduction with
  | word w hw =>
    rw [tokenChars_of_no_blank hw, words_of_no_blank hw]
    -- Nothing at all is no word, and would come to nothing.
    cases w with
    | nil => rfl
    | cons c w => rfl
  | blank w b rest hb hw hrest =>
    rw [tokenChars_append_cons hb, words_append_cons hb, hw, hrest, List.map_append,
      List.filter_append]

/-- A question has as many tokens as words that are not mere noise. -/
theorem length_tokenChars (cs : List Char) :
    (tokenChars cs).length = ((words cs).filter fun w => w.any fun c => !isNoise c).length := by
  have hkept : (fun t => !t.isEmpty) ∘ token = fun w => w.any fun c => !isNoise c := by
    funext w
    rw [Function.comp_apply, isEmpty_token, List.all_eq_not_any_not, Bool.not_not]
  rw [tokenChars_eq_words, List.filter_map, List.length_map, hkept]

/-- **A question has no tokens exactly if it holds nothing but blanks and noise.** -/
theorem tokenChars_eq_nil_iff {cs : List Char} :
    tokenChars cs = [] ↔ ∀ c ∈ cs, isBlank c = true ∨ isNoise c = true := by
  -- Word by word: a blank adds no tokens to those on either side.
  induction cs using blankInduction with
  | word w hw =>
    rw [tokenChars_of_no_blank hw, List.filter_eq_nil_iff]
    simp only [List.mem_singleton, forall_eq, Bool.not_eq_true', Bool.not_eq_false,
      isEmpty_token, List.all_eq_true]
    exact ⟨fun h c hc => .inr (h c hc), fun h c hc => (h c hc).resolve_left (by simp [hw c hc])⟩
  | blank w b rest hb hw hrest =>
    rw [tokenChars_append_cons hb, List.append_eq_nil_iff, hw, hrest]
    simp only [List.forall_mem_append, List.forall_mem_cons, hb, true_or, true_and]

/-- Blanks divide a question, however many they are. -/
theorem tokenChars_append_blanks_append {blanks : List Char} (hne : blanks ≠ [])
    (h : ∀ b ∈ blanks, isBlank b = true) (xs ys : List Char) :
    tokenChars (xs ++ blanks ++ ys) = tokenChars xs ++ tokenChars ys := by
  obtain ⟨b, blanks, rfl⟩ := List.exists_cons_of_ne_nil hne
  rw [List.append_assoc, List.cons_append, tokenChars_append_cons (h b List.mem_cons_self),
    tokenChars_blanks_append fun c hc => h c (List.mem_cons_of_mem b hc)]

/-- **Texts with blanks between them have their tokens in a row.** -/
theorem tokenChars_intercalate {blanks : List Char} (hne : blanks ≠ [])
    (h : ∀ b ∈ blanks, isBlank b = true) (texts : List (List Char)) :
    tokenChars (blanks.intercalate texts) = texts.flatMap tokenChars := by
  induction texts with
  | nil => rfl
  | cons text texts ih =>
    cases texts with
    | nil => simp
    | cons next texts =>
      rw [List.intercalate_cons_cons, tokenChars_append_blanks_append hne h, ih,
        ← List.flatMap_cons]

/-! ### Texts -/

/-- The words of a command line make a question with the tokens of each in a row. -/
theorem tokens_ofWords (words : List String) : tokens (ofWords words) = words.flatMap tokens := by
  have hblank : ∀ b ∈ [' '], isBlank b = true := List.forall_mem_singleton.mpr (by decide)
  rw [tokens, ofWords, String.toList_ofList, tokenChars_intercalate (by simp) hblank,
    List.flatMap_map, List.map_flatMap]
  rfl

/-- **A question comes to tokens word by word**:
    * its tokens are those of its words, each lower-cased on its own, without noise, the words that
      come to nothing dropped;
    * a text of blanks between two questions divides their tokens;
    * there is a token for each word that holds something else than noise;
    * there is none exactly if the question holds blanks and noise only;
    * words joined by single spaces have the tokens of each in a row.

    The lower-casing is that of whole texts: each character has its small form in the letter table,
    one or two characters, except that a capital sigma becomes the final one exactly behind a cased
    character and in front of none, case-ignorable characters left aside. -/
theorem tokens_word_by_word :
    (∀ text : String, tokens text
      = (((words text.toList).map fun w => (lower w).filter fun c => !isNoise c).filter
          fun t => !t.isEmpty).map String.ofList) ∧
    (∀ before blanks after : String, blanks ≠ "" → (∀ b ∈ blanks.toList, isBlank b = true) →
      tokens (before ++ blanks ++ after) = tokens before ++ tokens after) ∧
    (∀ text : String, (tokens text).length
      = ((words text.toList).filter fun w => w.any fun c => !isNoise c).length) ∧
    (∀ text : String, tokens text = [] ↔
      ∀ c ∈ text.toList, isBlank c = true ∨ isNoise c = true) ∧
    (∀ words : List String, tokens (ofWords words) = words.flatMap tokens) ∧
    (∀ cs : List Char, lower cs = cs.zipIdx.flatMap fun (c, i) =>
      if c = capitalSigma then [smallSigma (cs.take i).reverse (cs.drop (i + 1))]
      else lowerChar c) ∧
    (∀ before after : List Char,
      (smallSigma before after = 'ς' ↔ NearestIsCased before ∧ ¬ NearestIsCased after) ∧
      (smallSigma before after = 'ς' ∨ smallSigma before after = 'σ')) := by
  refine ⟨fun text => ?_, fun before blanks after hne hblank => ?_, fun text => ?_, fun text => ?_,
    tokens_ofWords, lower_eq_flatMap, fun before after =>
      ⟨smallSigma_eq_final_iff, smallSigma_cases before after⟩⟩
  · rw [tokens, tokenChars_eq_words]
    rfl
  · have hchars : blanks.toList ≠ [] := by simpa using hne
    rw [tokens, String.toList_append, String.toList_append,
      tokenChars_append_blanks_append hchars hblank, List.map_append]
    rfl
  · rw [tokens, List.length_map, length_tokenChars]
  · rw [tokens, List.map_eq_nil_iff, tokenChars_eq_nil_iff]

/-- Sigmas on both sides of blanks, with noise around them. -/
theorem tokens_word_by_word_sigmas :
    "\t\u2003" ≠ "" ∧ (∀ b ∈ "\t\u2003".toList, isBlank b = true) ∧
    tokens ("ΟΔΟΣ" ++ "\t\u2003" ++ "Σ.ΟΦΟΣ, ?") = ["οδος", "σοφος"] := by
  have hne : "\t\u2003" ≠ "" := by decide
  have hblank : ∀ b ∈ "\t\u2003".toList, isBlank b = true :=
    List.all_eq_true.mp (by decide)
  refine ⟨hne, hblank, ?_⟩
  rw [tokens_word_by_word.2.1 "ΟΔΟΣ" "\t\u2003" "Σ.ΟΦΟΣ, ?" hne hblank]
  decide +kernel

end ZoneAccess.Question

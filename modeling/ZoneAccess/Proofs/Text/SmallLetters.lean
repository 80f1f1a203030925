import ZoneAccess.Proofs.Text.Utf8
import ZoneAccess.Text.Blank
import ZoneAccess.Text.Lower

namespace ZoneAccess.Text

/-!
# Small letters

What the letter tables say of all letters at once, and what lower-casing makes of a text.

* `isRegular_of_mem` — the table of capitals is as it should be, checked run by run;
* `smallForm` — the small form of one character of a text, which `lowerAfter_cons` puts in front
  of those of the characters behind it;
* `lowerChar_of_mem_smallForm` — a small form is its own small form, so that a second lower-casing
  changes nothing (`lower_of_settled`);
* `letterless` — ranges of numbers that no letter has; a character of theirs is its own small form
  and nobody else's (`smallForm_of_isLetterless`, `eq_of_mem_smallForm`);
* `any_lower` — whether a text holds a kind of letterless character is not changed by
  lower-casing;
* `lower_eq_flatMap`, `smallSigma_eq_final_iff` — lower-casing place by place, and where a capital
  sigma becomes the final one.
-/

/-! ### Runs of letters -/

/-- The largest number of the small letters of a run. -/
def CaseRun.lastTarget (r : CaseRun) : Nat := r.target + (r.last - r.first)

/-- Whether no small letter of a run is a capital of the other: their numbers lie apart, or the
    capitals are every second number and the small letters are among those between. -/
def CaseRun.apartFrom (r other : CaseRun) : Bool :=
  Nat.blt other.last r.target || Nat.blt r.lastTarget other.first ||
    (other.step == 2 && (r.step == 2 || r.first == r.last) && (r.target + other.first) % 2 == 1)

/-- Whether a run has no letter among the numbers from `lo` to `hi`, neither a capital nor a small
    one. -/
def CaseRun.misses (r : CaseRun) (lo hi : Nat) : Bool :=
  (Nat.blt r.last lo || Nat.blt hi r.first) && (Nat.blt r.lastTarget lo || Nat.blt hi r.target)

/-- Ranges of numbers without letters; the blanks and the punctuation of ASCII are among them. -/
def letterless : List (Nat × Nat) :=
  [(0, 0x40), (0x7B, 0xA9), (0x1680, 0x1680), (0x2000, 0x206F), (0x3000, 0x303F)]

/-- Numbers that are no capitals: of the characters that U+0130 becomes, and of the final sigma. -/
def settled : List Nat := [0x69, 0x307, 0x3C2]

/-- What is checked of each run of the table: its small letters are characters, but not U+0130, and
    are no capitals, and it has no letter among the characters that are to have none. -/
def CaseRun.isRegular (r : CaseRun) : Bool :=
  (Nat.blt r.lastTarget 0xD800 || Nat.blt 0xDFFF r.target && Nat.blt r.lastTarget 0x110000) &&
    (Nat.blt r.lastTarget 0x130 || Nat.blt 0x130 r.target) &&
    settled.all (fun n => !r.covers n) &&
    letterless.all (fun range => r.misses range.1 range.2) && lowerRuns.all r.apartFrom

section Run

variable {r other : CaseRun} {n : Nat}

/-- A run covers the numbers from its first to its last, in its steps. -/
theorem CaseRun.covers_iff :
    r.covers n = true ↔ (r.first ≤ n ∧ n ≤ r.last) ∧ (n - r.first) % r.step = 0 := by
  simp [covers]

/-- The small letter of a capital lies among those of its run. -/
theorem CaseRun.target_le_of_covers (h : r.covers n = true) :
    r.target ≤ r.target + (n - r.first) ∧ r.target + (n - r.first) ≤ r.lastTarget := by
  have hrange := (covers_iff.mp h).1
  rw [lastTarget]
  omega

/-- What a run leads to is not covered by a run that it is apart from. -/
theorem CaseRun.covers_target_eq_false (hapart : r.apartFrom other = true)
    (h : r.covers n = true) : other.covers (r.target + (n - r.first)) = false := by
  obtain ⟨hlo, hhi⟩ := target_le_of_covers h
  obtain ⟨hrange, hstep⟩ := covers_iff.mp h
  rw [← Bool.not_eq_true, covers_iff]
  simp only [apartFrom, Bool.or_eq_true, Nat.blt_eq, Bool.and_eq_true, beq_iff_eq] at hapart
  rcases hapart with (hbehind | hbefore) | ⟨⟨hother, hsmall⟩, hodd⟩
  · -- The other run ends before the small letters of this one begin.
    omega
  · omega
  · -- The distance to the first capital of `other` is odd, that to its others even.
    have heven : (n - r.first) % 2 = 0 := by
      rcases hsmall with htwo | hsingle
      · rwa [htwo] at hstep
      · omega
    rw [hother]
    omega

end Run

/-! ### The table -/

/-- The table holds what is checked of it. -/
theorem isRegular_of_mem : ∀ r ∈ lowerRuns, r.isRegular = true :=
  -- The table is closed, and the runs of it are few enough to be compared pair by pair.
  List.all_eq_true.mp (by decide +kernel)

section Table

variable {r : CaseRun} (hr : r ∈ lowerRuns)
include hr

/-- All small letters are characters, and none is the capital I with a dot above. -/
theorem lastTarget_of_mem :
    (r.lastTarget < 0xD800 ∨ 0xDFFF < r.target ∧ r.lastTarget < 0x110000) ∧
      (r.lastTarget < 0x130 ∨ 0x130 < r.target) := by
  have hregular := isRegular_of_mem r hr
  simp only [CaseRun.isRegular, Bool.and_eq_true, Bool.or_eq_true, Nat.blt_eq] at hregular
  exact hregular.1.1.1

/-- No run covers a settled number. -/
theorem covers_of_mem_settled {n : Nat} (hn : n ∈ settled) : r.covers n = false := by
  have hregular := isRegular_of_mem r hr
  simp only [CaseRun.isRegular, Bool.and_eq_true, List.all_eq_true] at hregular
  simpa using hregular.1.1.2 n hn

/-- Every run misses the ranges without letters. -/
theorem misses_of_mem {range : Nat × Nat} (hrange : range ∈ letterless) :
    r.misses range.1 range.2 = true := by
  have hregular := isRegular_of_mem r hr
  simp only [CaseRun.isRegular, Bool.and_eq_true, List.all_eq_true] at hregular
  exact hregular.1.2 range hrange

/-- No small letter is a capital. -/
theorem apartFrom_of_mem {other : CaseRun} (hother : other ∈ lowerRuns) :
    r.apartFrom other = true := by
  have hregular := isRegular_of_mem r hr
  simp only [CaseRun.isRegular, Bool.and_eq_true, List.all_eq_true] at hregular
  exact hregular.2 other hother

end Table

/-! ### The small form of one character -/

/-- The final sigma. -/
def finalSigma : Char := Char.ofNat 0x3C2

/-- A character has one small letter in the table, or is its own small form, or is the capital I
    with a dot above. -/
theorem lowerChar_cases (c : Char) :
    (∃ r ∈ lowerRuns, ∃ d, r.covers c.toNat = true ∧ lowerChar c = [d] ∧
      d.toNat = r.target + (c.toNat - r.first)) ∨
    (c.toNat ≠ 0x130 ∧ (∀ r ∈ lowerRuns, r.covers c.toNat = false) ∧ lowerChar c = [c]) ∨
    lowerChar c = ['i', Char.ofNat 0x307] := by
  by_cases hdotted : c.toNat = 0x130
  · exact .inr (.inr (by rw [lowerChar, if_pos hdotted]))
  · rw [lowerChar, if_neg hdotted]
    cases hrun : lowerRuns.find? (·.covers c.toNat) with
    | none =>
      -- No run covers it, so that the table leaves it as it is.
      refine .inr (.inl ⟨hdotted, fun r hr => ?_, rfl⟩)
      simpa using List.find?_eq_none.mp hrun r hr
    | some r =>
      -- The first run that covers it gives the letter, whose number is that of a character.
      have hr := List.mem_of_find?_eq_some hrun
      have hcovers := List.find?_some hrun
      obtain ⟨hlo, hhi⟩ := CaseRun.target_le_of_covers hcovers
      have htarget := (lastTarget_of_mem hr).1
      exact .inl ⟨r, hr, _, hcovers, rfl, Utf8.toNat_ofNat_of_valid (by omega)⟩

/-- A character that is no capital is its own small form. -/
theorem lowerChar_eq_self {c : Char} (hdotted : c.toNat ≠ 0x130)
    (h : ∀ r ∈ lowerRuns, r.covers c.toNat = false) : lowerChar c = [c] := by
  have hrun : lowerRuns.find? (·.covers c.toNat) = none :=
    List.find?_eq_none.mpr fun r hr => by simp [h r hr]
  rw [lowerChar, if_neg hdotted, hrun]

/-- A character with a settled number is its own small form. -/
theorem lowerChar_of_mem_settled {c : Char} (h : c.toNat ∈ settled) : lowerChar c = [c] := by
  -- The capital I with a dot above comes before the table, and is not settled.
  have hdotted : c.toNat ≠ 0x130 := by
    intro heq
    rw [heq] at h
    exact absurd h (by decide)
  exact lowerChar_eq_self hdotted fun r hr => covers_of_mem_settled hr h

/-- **A small letter is its own small form.** -/
theorem lowerChar_of_mem_lowerChar {c d : Char} (h : d ∈ lowerChar c) : lowerChar d = [d] := by
  rcases lowerChar_cases c with ⟨r, hr, e, hcovers, hc, he⟩ | ⟨-, -, hc⟩ | hc
  · -- A small letter of the table: it lies apart from every run, its own included.
    rw [hc, List.mem_singleton] at h
    subst h
    obtain ⟨hlo, hhi⟩ := CaseRun.target_le_of_covers hcovers
    have htarget := (lastTarget_of_mem hr).2
    refine lowerChar_eq_self (by omega) fun other hother => ?_
    rw [he]
    exact CaseRun.covers_target_eq_false (apartFrom_of_mem hr hother) hcovers
  · rw [hc, List.mem_singleton] at h
    rw [h, hc]
  · rw [hc, List.mem_cons, List.mem_singleton] at h
    -- The two characters that the capital I with a dot above becomes.
    rcases h with rfl | rfl
    · exact lowerChar_of_mem_settled (by decide)
    · exact lowerChar_of_mem_settled (by decide)

/-- The small form of a character between others, those before it read backwards. -/
def smallForm (before : List Char) (c : Char) (after : List Char) : List Char :=
  if c = capitalSigma then [smallSigma before after] else lowerChar c

/-- The first character in its small form, then the rest, with one more character before it. -/
theorem lowerAfter_cons (before : List Char) (c : Char) (cs : List Char) :
    lowerAfter before (c :: cs) = smallForm before c cs ++ lowerAfter (c :: before) cs := rfl

/-- By itself the capital sigma becomes the small sigma that is not final. -/
theorem lowerChar_capitalSigma : lowerChar capitalSigma = [Char.ofNat 0x3C3] := by
  decide

/-- The neighbours of a character count for one form only, the final sigma. -/
theorem smallForm_cases (before : List Char) (c : Char) (after : List Char) :
    smallForm before c after = lowerChar c ∨
      c = capitalSigma ∧ smallForm before c after = [finalSigma] := by
  rw [smallForm]
  by_cases hc : c = capitalSigma
  · -- A capital sigma in the middle of a word has the form that it has by itself.
    rw [if_pos hc, smallSigma, hc, lowerChar_capitalSigma]
    split
    · exact .inr ⟨rfl, rfl⟩
    · exact .inl rfl
  · exact .inl (if_neg hc)

/-- The small form of any other character does not depend on what is around it. -/
theorem smallForm_of_ne {c : Char} (h : c ≠ capitalSigma) (before after : List Char) :
    smallForm before c after = lowerChar c :=
  if_neg h

/-- Every character has a small form. -/
theorem smallForm_ne_nil (before : List Char) (c : Char) (after : List Char) :
    smallForm before c after ≠ [] := by
  -- The form is one or two characters from the table, or the final sigma.
  rcases smallForm_cases before c after with hform | ⟨-, hform⟩
  · rw [hform]
    rcases lowerChar_cases c with ⟨_, _, _, _, hc, _⟩ | ⟨-, -, hc⟩ | hc
    all_goals rw [hc]; exact List.cons_ne_nil _ _
  · rw [hform]
    exact List.cons_ne_nil _ _

/-- **What a small form is made of is its own small form.** -/
theorem lowerChar_of_mem_smallForm {before after : List Char} {c d : Char}
    (h : d ∈ smallForm before c after) : lowerChar d = [d] := by
  rcases smallForm_cases before c after with hform | ⟨-, hform⟩
  · rw [hform] at h
    exact lowerChar_of_mem_lowerChar h
  · rw [hform, List.mem_singleton] at h
    rw [h]
    exact lowerChar_of_mem_settled (by decide)

/-! ### Characters that are no letters -/

/-- Whether a character is in one of the ranges without letters. -/
def isLetterless (c : Char) : Bool := inRanges letterless c.toNat

/-- A letterless character lies in one of the ranges. -/
theorem isLetterless_iff {c : Char} :
    isLetterless c = true ↔ ∃ range ∈ letterless, range.1 ≤ c.toNat ∧ c.toNat ≤ range.2 := by
  simp [isLetterless, inRanges]

/-- A blank is letterless. -/
theorem isLetterless_of_isBlank {b : Char} (h : isBlank b = true) : isLetterless b = true := by
  simp only [isBlank, Bool.or_eq_true, Bool.and_eq_true, decide_eq_true_eq, beq_iff_eq] at h
  simp only [isLetterless, inRanges, letterless, List.any_cons, List.any_nil, Bool.or_eq_true,
    Bool.and_eq_true, decide_eq_true_eq]
  omega

section Letterless

variable {c : Char}

/-- No letter of a run is letterless, neither a capital nor a small one. -/
theorem isLetterless_eq_false_of_run {r : CaseRun} (hr : r ∈ lowerRuns)
    (h : r.covers c.toNat = true ∨ r.target ≤ c.toNat ∧ c.toNat ≤ r.lastTarget) :
    isLetterless c = false := by
  rw [← Bool.not_eq_true, isLetterless_iff]
  rintro ⟨range, hrange, hlo, hhi⟩
  have hmisses := misses_of_mem hr hrange
  simp only [CaseRun.misses, Bool.and_eq_true, Bool.or_eq_true, Nat.blt_eq] at hmisses
  rcases h with hcovers | htarget
  · have := (CaseRun.covers_iff.mp hcovers).1
    omega
  · omega

/-- A letterless character is its own small letter. -/
theorem lowerChar_of_isLetterless (h : isLetterless c = true) : lowerChar c = [c] := by
  -- The ranges are closed, so a number outside them is told apart by evaluation.
  have hne {n : Nat} (hn : inRanges letterless n = false) : c.toNat ≠ n := by
    rintro rfl
    rw [isLetterless, hn] at h
    cases h
  refine lowerChar_eq_self (hne (by decide)) fun r hr => ?_
  cases hcovers : r.covers c.toNat with
  | false => rfl
  | true =>
    rw [isLetterless_eq_false_of_run hr (.inl hcovers)] at h
    cases h

/-- A character that is no letter is its own small form. -/
theorem smallForm_of_isLetterless (h : isLetterless c = true) (before after : List Char) :
    smallForm before c after = [c] := by
  have hsigma : c ≠ capitalSigma := by
    rintro rfl
    exact absurd h (by decide)
  rw [smallForm_of_ne hsigma, lowerChar_of_isLetterless h]

/-- It is nobody else's. -/
theorem eq_of_mem_smallForm {before after : List Char} {d : Char} (hd : isLetterless d = true)
    (h : d ∈ smallForm before c after) : d = c := by
  rcases smallForm_cases before c after with hform | ⟨-, hform⟩
  · rw [hform] at h
    rcases lowerChar_cases c with ⟨r, hr, e, hcovers, hc, he⟩ | ⟨-, -, hc⟩ | hc
    · rw [hc, List.mem_singleton] at h
      subst h
      -- A small letter of a run is not letterless, against the hypothesis.
      have htarget := CaseRun.target_le_of_covers hcovers
      rw [← he] at htarget
      rw [isLetterless_eq_false_of_run hr (.inr htarget)] at hd
      cases hd
    · rwa [hc, List.mem_singleton] at h
    · rw [hc, List.mem_cons, List.mem_singleton] at h
      rcases h with rfl | rfl
      · exact absurd hd (by decide)
      · exact absurd hd (by decide)
  · rw [hform, List.mem_singleton] at h
    -- Nor is the final sigma.
    subst h
    exact absurd hd (by decide)

end Letterless

/-- A kind of characters that are no letters is told by the small form. -/
theorem kind_of_mem_smallForm {p : Char → Bool} (hp : ∀ c, p c = true → isLetterless c = true)
    {before after : List Char} {c d : Char} (h : d ∈ smallForm before c after) : p d = p c := by
  cases hd : p d with
  | true => rw [← eq_of_mem_smallForm (hp d hd) h, hd]
  | false =>
    cases hc : p c with
    | false => rfl
    | true =>
      -- A character of the kind has no small form but itself.
      rw [smallForm_of_isLetterless (hp c hc), List.mem_singleton] at h
      rw [h, hc] at hd
      cases hd

/-! ### Whole texts -/

/-- Whether a text holds a character of a kind that small forms tell is not changed by
    lower-casing. -/
theorem any_lower {p : Char → Bool}
    (hp : ∀ before c after, ∀ d ∈ smallForm before c after, p d = p c) (cs : List Char) :
    (lower cs).any p = cs.any p := by
  have hafter (before : List Char) : (lowerAfter before cs).any p = cs.any p := by
    -- On the text, with anything before it, as the form of a character depends on that.
    induction cs generalizing before with
    | nil => rfl
    | cons c cs ih =>
      have hform : (smallForm before c cs).any p = p c := by
        obtain ⟨d, rest, hd⟩ := List.exists_cons_of_ne_nil (smallForm_ne_nil before c cs)
        rw [Bool.eq_iff_iff, List.any_eq_true]
        constructor
        · rintro ⟨e, he, hpe⟩
          rwa [← hp before c cs e he]
        · intro hpc
          have hmem : d ∈ smallForm before c cs := by rw [hd]; exact List.mem_cons_self
          exact ⟨d, hmem, by rw [hp before c cs d hmem, hpc]⟩
      rw [lowerAfter_cons, List.any_append, hform, ih, List.any_cons]
  exact hafter []

/-- What comes of lower-casing behind any characters is its own small form. -/
theorem lowerChar_of_mem_lowerAfter {before cs : List Char} {d : Char}
    (h : d ∈ lowerAfter before cs) : lowerChar d = [d] := by
  induction cs generalizing before with
  | nil => cases h
  | cons c cs ih =>
    rw [lowerAfter_cons, List.mem_append] at h
    rcases h with h | h
    · exact lowerChar_of_mem_smallForm h
    · exact ih h

/-- Lower-casing leaves characters only that are their own small form. -/
theorem lowerChar_of_mem_lower {cs : List Char} {d : Char} (h : d ∈ lower cs) :
    lowerChar d = [d] :=
  lowerChar_of_mem_lowerAfter h

/-- Without a capital sigma, lower-casing goes character by character. -/
theorem lower_of_no_sigma {cs : List Char} (h : capitalSigma ∉ cs) :
    lower cs = cs.flatMap lowerChar := by
  have hafter (before : List Char) : lowerAfter before cs = cs.flatMap lowerChar := by
    -- What stands before is only looked at for a capital sigma, so it may be anything.
    induction cs generalizing before with
    | nil => rfl
    | cons c cs ih =>
      rw [List.mem_cons, not_or] at h
      rw [lowerAfter_cons, smallForm_of_ne (Ne.symm h.1), ih h.2, List.flatMap_cons]
  exact hafter []

/-- **A text of characters that are their own small form is its own small form.** -/
theorem lower_of_settled {cs : List Char} (h : ∀ c ∈ cs, lowerChar c = [c]) : lower cs = cs := by
  -- The capital sigma is not its own small form, so there is none in such a text.
  have hsigma : capitalSigma ∉ cs := by
    intro hmem
    have hform := h _ hmem
    rw [lowerChar_capitalSigma] at hform
    exact absurd hform (by decide)
  rw [lower_of_no_sigma hsigma]
  induction cs with
  | nil => rfl
  | cons c cs ih =>
    rw [List.flatMap_cons, h c List.mem_cons_self, List.singleton_append,
      ih (fun d hd => h d (List.mem_cons_of_mem c hd)) fun hd => hsigma (List.mem_cons_of_mem c hd)]

/-! ### Place by place -/

/-- The small form of a text is made of those of its characters, each with what stands before it and
    behind it. -/
theorem lower_eq_flatMap (cs : List Char) :
    lower cs
      = cs.zipIdx.flatMap fun (c, i) => smallForm (cs.take i).reverse c (cs.drop (i + 1)) := by
  have hafter (before rest : List Char) (hcs : before.reverse ++ rest = cs) :
      lowerAfter before rest = (rest.zipIdx before.length).flatMap fun (c, i) =>
        smallForm (cs.take i).reverse c (cs.drop (i + 1)) := by
    -- What is before and what is left make up the text at every step, so that the place of the next
    -- character is the length of what is before.
    induction rest generalizing before with
    | nil => rfl
    | cons c rest ih =>
      have hnext : (c :: before).reverse ++ rest = cs := by simpa using hcs
      have htake : (cs.take before.length).reverse = before := by
        rw [← hcs, List.take_left' (List.length_reverse ..), List.reverse_reverse]
      have hdrop : cs.drop (before.length + 1) = rest := by
        rw [← hnext, List.drop_left' (by rw [List.length_reverse, List.length_cons])]
      rw [lowerAfter_cons, ih (c :: before) hnext, List.zipIdx_cons, List.flatMap_cons,
        List.length_cons]
      dsimp only
      rw [htake, hdrop]
  exact hafter [] cs rfl

/-- The nearest of some characters that is not case-ignorable is cased. -/
def NearestIsCased (cs : List Char) : Prop :=
  ∃ skipped c rest, cs = skipped ++ c :: rest ∧ (∀ s ∈ skipped, isCaseIgnorable s = true) ∧
    isCaseIgnorable c = false ∧ isCased c = true

/-- The search for a cased letter passes over a character that is ignored, and ends at any other. -/
theorem meetsCased_cons (c : Char) (cs : List Char) :
    meetsCased (c :: cs) = if isCaseIgnorable c then meetsCased cs else isCased c := by
  cases h : isCaseIgnorable c <;> simp [meetsCased, h]

/-- The search finds the nearest character that is not passed over. -/
theorem meetsCased_iff {cs : List Char} : meetsCased cs = true ↔ NearestIsCased cs := by
  constructor
  · intro h
    rw [meetsCased] at h
    split at h
    · cases h
    · next c rest hrest =>
      have hhead := List.head?_dropWhile_not isCaseIgnorable cs
      rw [hrest] at hhead
      -- Where the search ends, all before it was passed over.
      have hcs : cs = cs.takeWhile isCaseIgnorable ++ c :: rest := by
        rw [← hrest, List.takeWhile_append_dropWhile]
      exact ⟨_, c, rest, hcs, List.all_eq_true.mp List.all_takeWhile, by simpa using hhead, h⟩
  · rintro ⟨skipped, c, rest, rfl, hskipped, hc, hcased⟩
    rw [meetsCased, List.dropWhile_append_of_pos hskipped,
      List.dropWhile_cons_of_neg (by simp [hc])]
    exact hcased

/-- **A capital sigma becomes the final one at the end of a word**: a cased character stands before
    it, and none behind it, case-ignorable characters left aside. -/
theorem smallSigma_eq_final_iff {before after : List Char} :
    smallSigma before after = finalSigma ↔ NearestIsCased before ∧ ¬ NearestIsCased after := by
  rw [← meetsCased_iff, ← meetsCased_iff, smallSigma]
  -- Four cases, by what the search meets on either side.
  cases meetsCased before <;> cases meetsCased after <;> simp [finalSigma]

/-- Elsewhere it becomes the other one. -/
theorem smallSigma_cases (before after : List Char) :
    smallSigma before after = finalSigma ∨ smallSigma before after = Char.ofNat 0x3C3 := by
  rw [smallSigma]
  split
  · exact .inl rfl
  · exact .inr rfl

end ZoneAccess.Text

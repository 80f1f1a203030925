import ZoneAccess.Text.Blank
import ZoneAccess.Text.Search

namespace ZoneAccess.Text

/-!
# Trimmed texts

What is left of a text without the blanks at its ends.

* `hasInk` — whether a text holds a character that is not blank;
* `exists_head_trim` — a trimmed text that is not empty begins with such a character;
* `occursIn_trim` — trimming does not take apart a mark that neither begins nor ends in a blank.
-/

/-! ### Ink -/

/-- Whether a text holds a character that is not blank. -/
def hasInk (s : String) : Bool := s.toList.any fun c => !isBlank c

/-- A text has ink if one of its characters is not blank. -/
theorem hasInk_iff {s : String} : hasInk s = true ↔ ∃ c ∈ s.toList, isBlank c = false := by
  simp [hasInk]

/-- A text has the ink of its parts. -/
theorem hasInk_append (s t : String) : hasInk (s ++ t) = (hasInk s || hasInk t) := by
  rw [hasInk, String.toList_append, List.any_append]
  rfl

/-- A text says something if its beginning does. -/
theorem hasInk_append_of_left {s : String} (h : hasInk s = true) (t : String) :
    hasInk (s ++ t) = true := by
  rw [hasInk_append, h, Bool.true_or]

/-- A text says something if its beginning does, however it goes on. -/
theorem hasInk_append_append {s : String} (h : hasInk s = true) (t u : String) :
    hasInk (s ++ t ++ u) = true :=
  hasInk_append_of_left (hasInk_append_of_left h t) u

/-- A text that holds a mark has the ink of the mark. -/
theorem hasInk_of_occursIn {mark s : String} (h : occursIn mark s = true)
    (hmark : hasInk mark = true) : hasInk s = true := by
  obtain ⟨front, rest, hs⟩ := occursInChars_iff.mp h
  obtain ⟨c, hc, hblank⟩ := hasInk_iff.mp hmark
  refine hasInk_iff.mpr ⟨c, ?_, hblank⟩
  rw [hs]
  exact List.mem_append_left rest (List.mem_append_right front hc)

/-- A text that begins with a mark holds it. -/
theorem occursIn_of_startsWith {mark s : String} (h : startsWith mark s = true) :
    occursIn mark s = true := by
  obtain ⟨rest, hrest⟩ := List.isPrefixOf_iff_prefix.mp h
  exact occursInChars_iff.mpr ⟨[], rest, by rw [List.nil_append, hrest]⟩

/-! ### What trimming leaves -/

/-- The blanks that are taken from the front are blank. -/
theorem isBlank_of_mem_takeWhile {cs : List Char} {b : Char} (h : b ∈ cs.takeWhile isBlank) :
    isBlank b = true :=
  List.all_eq_true.mp List.all_takeWhile b h

/-- Trimming takes blanks from the front of a list. -/
theorem exists_append_trimFront (cs : List Char) :
    ∃ blanks, (∀ b ∈ blanks, isBlank b = true) ∧ cs = blanks ++ trimFront cs :=
  ⟨cs.takeWhile isBlank, fun _ hb => isBlank_of_mem_takeWhile hb,
    List.takeWhile_append_dropWhile.symm⟩

/-- It takes blanks from the end of a list. -/
theorem exists_trimBack_append (cs : List Char) :
    ∃ blanks, (∀ b ∈ blanks, isBlank b = true) ∧ cs = trimBack cs ++ blanks := by
  refine ⟨(cs.reverse.takeWhile isBlank).reverse,
    fun _ hb => isBlank_of_mem_takeWhile (List.mem_reverse.mp hb), ?_⟩
  rw [trimBack, ← List.reverse_append, List.takeWhile_append_dropWhile, List.reverse_reverse]

/-- What is left of a list begins with no blank. -/
theorem isBlank_of_trimmed_eq_cons {cs rest : List Char} {c : Char} (h : trimmed cs = c :: rest) :
    isBlank c = false := by
  obtain ⟨blanks, -, hback⟩ := exists_trimBack_append (trimFront cs)
  -- Trimming the end takes nothing from the front, so the head is where blanks were dropped.
  have hfront : cs.dropWhile isBlank = c :: (rest ++ blanks) := by
    rw [← trimFront, hback, ← trimmed, h, List.cons_append]
  have hhead := List.head?_dropWhile_not isBlank cs
  rw [hfront] at hhead
  simpa using hhead

/-- A trimmed text that is not empty begins with a character that is not blank. -/
theorem exists_head_trim {s : String} (h : trim s ≠ "") :
    ∃ c rest, (trim s).toList = c :: rest ∧ isBlank c = false := by
  cases hchars : trimmed s.toList with
  | nil =>
    refine absurd ?_ h
    rw [trim, hchars]
  | cons c rest =>
    exact ⟨c, rest, by rw [toList_trim, hchars], isBlank_of_trimmed_eq_cons hchars⟩

/-- So it has ink. -/
theorem hasInk_trim {s : String} (h : trim s ≠ "") : hasInk (trim s) = true := by
  obtain ⟨c, rest, hchars, hblank⟩ := exists_head_trim h
  exact hasInk_iff.mpr ⟨c, by rw [hchars]; exact List.mem_cons_self, hblank⟩

/-- The first line that is not blank begins with a character that is not. -/
theorem exists_head_of_firstFullLine? {s line : String} (h : firstFullLine? s = some line) :
    ∃ c rest, line.toList = c :: rest ∧ isBlank c = false := by
  obtain ⟨l, -, rfl⟩ := List.mem_map.mp (List.mem_of_find?_eq_some h)
  refine exists_head_trim fun hempty => ?_
  have hfull := List.find?_some h
  rw [hempty] at hfull
  cases hfull

/-- A blank at the end of a list is not met by trimming. -/
theorem trimmed_concat {b : Char} (hb : isBlank b = true) (cs : List Char) :
    trimmed (cs ++ [b]) = trimmed cs := by
  rw [trimmed, trimFront, List.dropWhile_append, trimmed, trimFront]
  cases cs.dropWhile isBlank with
  | nil => simp [trimBack, hb]
  | cons c rest => simp [trimBack, hb]

/-- Nor is one at the end of a text. -/
theorem trim_append_lineFeed (s : String) : trim (s ++ "\n") = trim s := by
  rw [trim, String.toList_append]
  exact congrArg String.ofList (trimmed_concat (by decide) s.toList)

/-! ### Marks in trimmed texts -/

/-- Blanks are dropped from the front of a list up to a character that is none. -/
theorem trimFront_append_cons (front rest : List Char) {c : Char} (h : isBlank c = false) :
    trimFront (front ++ c :: rest) = trimFront front ++ c :: rest := by
  induction front with
  | nil => rw [List.nil_append, trimFront, List.dropWhile_cons_of_neg (by simp [h])]; rfl
  | cons b front ih =>
    rw [trimFront] at ih ⊢
    cases hb : isBlank b with
    | true =>
      rw [List.cons_append, List.dropWhile_cons_of_pos hb, ih, trimFront, trimFront,
        List.dropWhile_cons_of_pos hb]
    | false =>
      rw [List.cons_append, List.dropWhile_cons_of_neg (by simp [hb]), trimFront,
        List.dropWhile_cons_of_neg (by simp [hb])]
      rfl

/-- Blanks are dropped from the end of a list down to a character that is none. -/
theorem trimBack_append_cons (front rest : List Char) {c : Char} (h : isBlank c = false) :
    trimBack (front ++ c :: rest) = front ++ c :: trimBack rest := by
  -- From the end, the list is trimmed as its reverse is from the front.
  have hreverse : (front ++ c :: rest).reverse = rest.reverse ++ c :: front.reverse := by simp
  rw [trimBack, hreverse, ← trimFront, trimFront_append_cons _ _ h, trimFront, trimBack]
  simp

/-- **Trimming keeps a mark** that neither begins nor ends in a blank. -/
theorem occursInChars_trimmed {mark cs : List Char} (h : occursInChars mark cs = true)
    (hhead : mark.head?.any isBlank = false) (hlast : mark.getLast?.any isBlank = false) :
    occursInChars mark (trimmed cs) = true := by
  obtain ⟨front, rest, rfl⟩ := occursInChars_iff.mp h
  cases mark with
  | nil => exact occursInChars_iff.mpr ⟨[], trimmed (front ++ [] ++ rest), rfl⟩
  | cons c mark =>
    have hfront : trimFront (front ++ (c :: mark) ++ rest)
        = trimFront front ++ (c :: mark) ++ rest := by
      rw [List.append_assoc, List.cons_append, trimFront_append_cons _ _ hhead,
        List.append_assoc, List.cons_append]
    -- From the other end the mark is met at its last character.
    obtain ⟨body, last, hmark⟩ : ∃ body last, c :: mark = body ++ [last] :=
      ⟨_, _, (List.dropLast_concat_getLast (List.cons_ne_nil c mark)).symm⟩
    have hblank : isBlank last = false := by
      rw [hmark, List.getLast?_concat] at hlast
      exact hlast
    have hback : trimBack (trimFront front ++ (c :: mark) ++ rest)
        = trimFront front ++ (c :: mark) ++ trimBack rest := by
      rw [hmark, ← List.append_assoc, List.append_assoc _ [last], List.singleton_append,
        trimBack_append_cons _ _ hblank, List.append_assoc _ [last], List.singleton_append]
    rw [trimmed, hfront, hback]
    exact occursInChars_iff.mpr ⟨_, _, rfl⟩

/-- A mark with no blank at either end is still found when the text around it is trimmed. -/
theorem occursIn_trim {mark s : String} (h : occursIn mark s = true)
    (hhead : mark.toList.head?.any isBlank = false)
    (hlast : mark.toList.getLast?.any isBlank = false) :
    occursIn mark (trim s) = true := by
  rw [occursIn, toList_trim]
  exact occursInChars_trimmed h hhead hlast

end ZoneAccess.Text

import ZoneAccess.Proofs.Text.Trimming

namespace ZoneAccess.Text

/-!
# Blanks around a text

Trimming gives one and the same text to all that differ in the blanks at their ends only.

* `Pads` — a text is another one with blanks in front of it and behind it;
* `trim_eq_of_pads` — both are trimmed to the same;
* `pads_trim` — every text is what it is trimmed to, with blanks around it;
* `occursIn_trim_eq` — a mark that neither begins nor ends in a blank stands in a text exactly if it
  stands in what that is trimmed to.
-/

/-- The second text is the first with blanks in front of it and behind it. -/
def Pads (s padded : String) : Prop :=
  ∃ front back : String, (∀ c ∈ front.toList, isBlank c = true) ∧
    (∀ c ∈ back.toList, isBlank c = true) ∧ padded = front ++ s ++ back

/-! ### Trimming -/

/-- Blanks in front of a list are not met by trimming. -/
theorem trimmed_blanks_append {blanks : List Char} (h : ∀ b ∈ blanks, isBlank b = true)
    (cs : List Char) : trimmed (blanks ++ cs) = trimmed cs := by
  rw [trimmed, trimFront, List.dropWhile_append_of_pos h, trimmed, trimFront]

/-- Nor are those behind it. -/
theorem trimmed_append_blanks {blanks : List Char} (h : ∀ b ∈ blanks, isBlank b = true)
    (cs : List Char) : trimmed (cs ++ blanks) = trimmed cs := by
  induction blanks generalizing cs with
  | nil => rw [List.append_nil]
  | cons b blanks ih =>
    have hrest := ih (fun c hc => h c (List.mem_cons_of_mem b hc)) (cs ++ [b])
    rw [List.append_cons, hrest, trimmed_concat (h b List.mem_cons_self)]

/-- **Blanks around a text are not in what it is trimmed to.** -/
theorem trim_eq_of_pads {s padded : String} (h : Pads s padded) : trim padded = trim s := by
  obtain ⟨front, back, hfront, hback, rfl⟩ := h
  rw [trim, String.toList_append, String.toList_append, trimmed_append_blanks hback,
    trimmed_blanks_append hfront, trim]

/-- Every text is what it is trimmed to, with blanks around it. -/
theorem pads_trim (s : String) : Pads (trim s) s := by
  obtain ⟨front, hfront, hs⟩ := exists_append_trimFront s.toList
  obtain ⟨back, hback, htrim⟩ := exists_trimBack_append (trimFront s.toList)
  refine ⟨String.ofList front, String.ofList back, by simpa using hfront, by simpa using hback, ?_⟩
  refine String.toList_inj.mp ?_
  rw [String.toList_append, String.toList_append, String.toList_ofList, String.toList_ofList,
    toList_trim, List.append_assoc, trimmed, ← htrim, ← hs]

/-- So trimming twice is trimming once. -/
theorem trim_trim (s : String) : trim (trim s) = trim s := (trim_eq_of_pads (pads_trim s)).symm

/-! ### Marks -/

/-- A mark in a text stays there when blanks are put around the text. -/
theorem occursIn_of_pads {mark s padded : String} (h : Pads s padded)
    (hmark : occursIn mark s = true) : occursIn mark padded = true := by
  obtain ⟨front, back, -, -, rfl⟩ := h
  obtain ⟨before, after, hs⟩ := occursInChars_iff.mp hmark
  refine occursInChars_iff.mpr ⟨front.toList ++ before, after ++ back.toList, ?_⟩
  rw [String.toList_append, String.toList_append, hs]
  simp only [List.append_assoc]

/-- **A mark stands in a text exactly if it stands in its trimmed form**, unless it begins or ends
    in a blank. -/
theorem occursIn_trim_eq {mark : String} (hhead : mark.toList.head?.any isBlank = false)
    (hlast : mark.toList.getLast?.any isBlank = false) (s : String) :
    occursIn mark (trim s) = occursIn mark s := by
  rw [Bool.eq_iff_iff]
  exact ⟨occursIn_of_pads (pads_trim s), fun h => occursIn_trim h hhead hlast⟩

end ZoneAccess.Text

namespace ZoneAccess.Text

/-!
# Finding one text in another

* `startsWith` and `occursIn` — whether a mark stands at the front of a text, or anywhere
  in it;
* `occursInChars_iff` — a mark occurs exactly when the text is something, the mark, and
  something more.
-/

/-- Whether the first list stands anywhere in the second. -/
def occursInChars (mark : List Char) : List Char → Bool
  | [] => mark.isEmpty
  | c :: cs => mark.isPrefixOf (c :: cs) || occursInChars mark cs

/-- A mark occurs exactly where the text is made of a front, the mark and a rest. -/
theorem occursInChars_iff {mark cs : List Char} :
    occursInChars mark cs = true ↔ ∃ front rest, cs = front ++ mark ++ rest := by
  induction cs with
  | nil =>
    simp only [occursInChars, List.isEmpty_iff]
    constructor
    · intro h; exact ⟨[], [], by simp [h]⟩
    · rintro ⟨front, rest, h⟩; simp at h; exact h.2.1
  | cons c cs ih =>
    simp only [occursInChars, Bool.or_eq_true, ih, List.isPrefixOf_iff_prefix]
    constructor
    · rintro (⟨rest, h⟩ | ⟨front, rest, h⟩)
      · exact ⟨[], rest, by simp [h]⟩
      · exact ⟨c :: front, rest, by simp [h]⟩
    · rintro ⟨front, rest, h⟩
      cases front with
      | nil => exact .inl ⟨rest, by simpa using h.symm⟩
      | cons d front =>
        simp only [List.cons_append, List.cons.injEq] at h
        exact .inr ⟨front, rest, by simpa using h.2⟩

/-- Whether a text begins with a mark. -/
def startsWith (mark s : String) : Bool := mark.toList.isPrefixOf s.toList

/-- Whether a text holds a mark anywhere. -/
def occursIn (mark s : String) : Bool := occursInChars mark.toList s.toList

end ZoneAccess.Text

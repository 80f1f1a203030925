import ZoneAccess.Proofs.Text.Padding

namespace ZoneAccess

/-!
# The first line that is not blank

Lines and their like, said by what stands before and behind them.

* `Stretch` — some elements of a list stand between separators, or between one and an end;
* `exists_cut_of_stretch`, `exists_stretch_of_cut` — the stretches of a list are what it is cut
  into;
* `Text.FirstFullLine` — a text is the first line that is not blank, without the blanks around it;
* `Text.firstFullLine?_eq_some_iff` — that is the one which is found.
-/

/-! ### Stretches -/

section Stretches

universe u
variable {α : Type u} {p : α → Bool} {xs front w back : List α}

/-- In a list made of these three parts the second has no separator and is as long as it can be:
    what stands before it ends in a separator, and what stands behind it begins with one, if there
    is anything. -/
structure Stretch (p : α → Bool) (front w back : List α) : Prop where
  clean : ∀ x ∈ w, p x = false
  opens : ∀ x ∈ front.getLast?, p x = true
  closes : ∀ x ∈ back.head?, p x = true

/-- A list has no separator, or a first one. -/
theorem exists_first_separator (p : α → Bool) (xs : List α) :
    (∀ x ∈ xs, p x = false) ∨
    ∃ w s rest, xs = w ++ s :: rest ∧ (∀ x ∈ w, p x = false) ∧ p s = true := by
  cases hfirst : xs.find? p with
  | none =>
    refine .inl fun x hx => ?_
    simpa using List.find?_eq_none.mp hfirst x hx
  | some s =>
    obtain ⟨hs, w, rest, rfl, hw⟩ := List.find?_eq_some_iff_append.mp hfirst
    exact .inr ⟨w, s, rest, rfl, fun x hx => by simpa using hw x hx, hs⟩

/-- What a list is cut into is made of its elements. -/
theorem mem_of_mem_cut {x : α} (hw : w ∈ cut p xs) (hx : x ∈ w) : x ∈ xs := by
  induction xs generalizing w with
  | nil =>
    rw [cut, List.mem_singleton] at hw
    rwa [hw] at hx
  | cons y ys ih =>
    obtain ⟨v, vs, hv⟩ := exists_cut_eq_cons p ys
    rw [cut, hv] at hw
    split at hw
    · rcases List.mem_cons.mp hw with rfl | hw
      · cases hx
      · exact List.mem_cons_of_mem y (ih (hv ▸ hw) hx)
    · rcases List.mem_cons.mp hw with rfl | hw
      · rcases List.mem_cons.mp hx with rfl | hx
        · exact List.mem_cons_self
        · exact List.mem_cons_of_mem y (ih (hv ▸ List.mem_cons_self) hx)
      · exact List.mem_cons_of_mem y (ih (hv ▸ List.mem_cons_of_mem v hw) hx)

/-- A stretch is cut out, and nothing in front of it but what stands there. -/
theorem exists_cut_of_stretch (h : Stretch p front w back) :
    ∃ before after, cut p (front ++ w ++ back) = before ++ w :: after ∧
      ∀ v ∈ before, ∀ x ∈ v, x ∈ front := by
  obtain ⟨after, hafter⟩ : ∃ after, cut p (w ++ back) = w :: after := by
    cases back with
    | nil => exact ⟨[], by rw [List.append_nil, cut_eq_singleton h.clean]⟩
    | cons s rest =>
      exact ⟨cut p rest, by rw [cut_append_cons (h.closes s rfl), cut_eq_singleton h.clean]; rfl⟩
  rw [List.append_assoc]
  -- The stretch is cut out at the start of what is left, behind the separator that opens it.
  obtain rfl | ⟨front, s, hfront⟩ := List.eq_nil_or_concat front
  · exact ⟨[], after, hafter, nofun⟩
  · rw [List.concat_eq_append] at hfront
    subst hfront
    have hs : p s = true := h.opens s (by simp)
    refine ⟨cut p front, after, ?_, fun v hv x hx => ?_⟩
    · rw [List.append_assoc, List.singleton_append, cut_append_cons hs, hafter]
    · exact List.mem_append_left [s] (mem_of_mem_cut hv hx)

/-- What is cut out of a list is a stretch of it, and in front of it stand separators and what is
    cut out before. -/
theorem exists_stretch_of_cut {before after : List (List α)}
    (h : cut p xs = before ++ w :: after) :
    ∃ front back, xs = front ++ w ++ back ∧ Stretch p front w back ∧
      ∀ x ∈ front, p x = true ∨ ∃ v ∈ before, x ∈ v := by
  -- On the pieces before it: each is cut off with the separator behind it.
  induction before generalizing xs with
  | nil =>
    obtain hclean | ⟨v, s, rest, rfl, hclean, hs⟩ := exists_first_separator p xs
    · rw [cut_eq_singleton hclean] at h
      obtain ⟨rfl, -⟩ := List.cons.inj h
      exact ⟨[], [], by simp, ⟨hclean, nofun, nofun⟩, nofun⟩
    · rw [cut_append_cons hs, cut_eq_singleton hclean] at h
      obtain ⟨rfl, -⟩ := List.cons.inj h
      refine ⟨[], s :: rest, rfl, ⟨hclean, nofun, fun x hx => ?_⟩, nofun⟩
      rwa [← Option.some.inj hx]
  | cons v before ih =>
    obtain hclean | ⟨v', s, rest, rfl, hclean, hs⟩ := exists_first_separator p xs
    · rw [cut_eq_singleton hclean] at h
      cases before <;> cases (List.cons.inj h).2
    · rw [cut_append_cons hs, cut_eq_singleton hclean] at h
      obtain ⟨rfl, hrest⟩ := List.cons.inj h
      obtain ⟨front, back, rfl, hstretch, hfront⟩ := ih hrest
      have hopens : ∀ x ∈ (v' ++ s :: front).getLast?, p x = true := by
        rw [List.getLast?_append, List.getLast?_cons]
        cases hlast : front.getLast? with
        | none => simpa using hs
        | some t => simpa using hstretch.opens t hlast
      refine ⟨v' ++ s :: front, back, by simp, ⟨hstretch.clean, hopens, hstretch.closes⟩, ?_⟩
      intro x hx
      rcases List.mem_append.mp hx with hx | hx
      · exact .inr ⟨v', List.mem_cons_self, hx⟩
      · rcases List.mem_cons.mp hx with rfl | hx
        · exact .inl hs
        · obtain hx | ⟨v, hv, hx⟩ := hfront x hx
          · exact .inl hx
          · exact .inr ⟨v, List.mem_cons_of_mem v' hv, hx⟩

end Stretches

/-! ### Lines -/

namespace Text

/-- A text is blank if nothing is left of it. -/
theorem trim_eq_empty_iff {s : String} : trim s = "" ↔ ∀ c ∈ s.toList, isBlank c = true := by
  constructor
  · intro h
    obtain ⟨front, back, hfront, hback, hs⟩ := pads_trim s
    rw [h] at hs
    intro c hc
    rw [hs, String.append_empty, String.toList_append] at hc
    exact (List.mem_append.mp hc).elim (hfront c) (hback c)
  · intro h
    rw [trim, ← List.append_nil s.toList, trimmed_blanks_append h]
    rfl

/-- A text is the first line of another that is not blank, without the blanks around it. -/
def FirstFullLine (s full : String) : Prop :=
  ∃ before line after : String, s = before ++ line ++ after ∧
    Stretch (· == '\n') before.toList line.toList after.toList ∧
    (∀ c ∈ before.toList, isBlank c = true) ∧ trim line = full ∧ full ≠ ""

/-- **The first line that is not blank is the one that is found**, if there is one. -/
theorem firstFullLine?_eq_some_iff {s full : String} :
    firstFullLine? s = some full ↔ FirstFullLine s full := by
  constructor
  · intro h
    obtain ⟨hfull, before, after, hlines, hbefore⟩ := List.find?_eq_some_iff_append.mp h
    -- The lines that were passed over are blank, and so are the line feeds between them.
    rw [lines, List.map_map, List.map_eq_append_iff] at hlines
    obtain ⟨early, late, hcut, rfl, hlate⟩ := hlines
    obtain ⟨line, rest, rfl, rfl, -⟩ := List.map_eq_cons_iff.mp hlate
    obtain ⟨front, back, hs, hstretch, hfront⟩ := exists_stretch_of_cut hcut
    refine ⟨String.ofList front, String.ofList line, String.ofList back, ?_, ?_, ?_, rfl, ?_⟩
    · rw [← String.ofList_append, ← String.ofList_append, ← hs, String.ofList_toList]
    · simpa only [String.toList_ofList] using hstretch
    · intro c hc
      rw [String.toList_ofList] at hc
      obtain hfeed | ⟨v, hv, hmem⟩ := hfront c hc
      · rw [eq_of_beq hfeed]
        decide
      · have hblank : trim (String.ofList v) = "" := by
          simpa using hbefore _ (List.mem_map_of_mem hv)
        exact trim_eq_empty_iff.mp hblank c (by rwa [String.toList_ofList])
    · intro hempty
      rw [hempty] at hfull
      cases hfull
  · rintro ⟨before, line, after, rfl, hstretch, hbefore, rfl, hfull⟩
    obtain ⟨early, late, hcut, hearly⟩ := exists_cut_of_stretch hstretch
    have hlines : (lines (before ++ line ++ after)).map trim
        = early.map (trim ∘ String.ofList) ++ trim line :: late.map (trim ∘ String.ofList) := by
      rw [lines, String.toList_append, String.toList_append, hcut, List.map_map, List.map_append,
        List.map_cons, Function.comp_apply, String.ofList_toList]
    refine List.find?_eq_some_iff_append.mpr ⟨by simpa using hfull, _, _, hlines, ?_⟩
    intro blank hblank
    obtain ⟨v, hv, rfl⟩ := List.mem_map.mp hblank
    have hempty : trim (String.ofList v) = "" := by
      refine trim_eq_empty_iff.mpr fun c hc => hbefore c (hearly v hv c ?_)
      rwa [String.toList_ofList] at hc
    rw [Function.comp_apply, hempty]
    rfl

variable {s full : String}

/-- Such a line is as it is without blanks around it, and a line. -/
theorem FirstFullLine.trimmed (h : FirstFullLine s full) :
    full ≠ "" ∧ trim full = full ∧ '\n' ∉ full.toList := by
  obtain ⟨before, line, after, -, hstretch, -, rfl, hfull⟩ := h
  refine ⟨hfull, trim_trim line, fun hfeed => ?_⟩
  obtain ⟨front, back, -, -, hline⟩ := pads_trim line
  have hmem : '\n' ∈ line.toList := by
    rw [hline, String.toList_append, String.toList_append]
    exact List.mem_append_left _ (List.mem_append_right _ hfeed)
  exact absurd (hstretch.clean _ hmem) (by decide)

end Text

end ZoneAccess

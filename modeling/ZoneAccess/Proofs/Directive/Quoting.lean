import ZoneAccess.Atom

namespace ZoneAccess.Atom

/-!
# Quoting is undone by reading

* `read_quoteChars` — the reader takes exactly the atom off the front of a text and leaves
  what follows, whatever characters the atom has;
* `noControl_quoteChars` — the written form has no control character (`NoControl`), even if
  the atom has some;
* `length_lt_of_read` — what follows an atom is shorter than what the atom was read from, so
  that atoms can be read one after the other.
-/

/-! ### Hexadecimal digits -/

/-- No digit is the character that an escape begins with. -/
theorem digitChar_ne_escape : ∀ d < 16, Nat.digitChar d ≠ escape := by decide

/-- No digit is a control character. -/
theorem isControl_digitChar : ∀ d < 16, Text.isControl (Nat.digitChar d) = false := by decide

/-- A further digit of an escape is added to the value of those before it. -/
theorem readFrom_hex_digitChar (value : Option Nat) {d : Nat} (h : d < 16) (rest : List Char) :
    readFrom (.hex value) (Nat.digitChar d :: rest)
      = readFrom (.hex (some (value.getD 0 * 16 + d))) rest := by
  simp only [readFrom, if_neg (digitChar_ne_escape d h), Text.hexValue?_digitChar d h]

/-- The reader comes to the number that is written in hexadecimal. -/
theorem readFrom_toDigits (n : Nat) (rest : List Char) :
    readFrom (.hex none) (Nat.toDigits 16 n ++ rest) = readFrom (.hex (some n)) rest := by
  -- The last digit is read last, behind the digits of `n / 16`.
  induction n using Nat.strongRecOn generalizing rest with
  | _ n ih =>
    by_cases h : n < 16
    · rw [Nat.toDigits_of_lt_base h, List.singleton_append, readFrom_hex_digitChar none h]
      simp
    · rw [Nat.toDigits_of_base_le (by decide) (by omega), List.append_assoc,
        ih (n / 16) (by omega), List.singleton_append,
        readFrom_hex_digitChar (some (n / 16)) (Nat.mod_lt n (by decide)), Option.getD_some,
        show n / 16 * 16 + n % 16 = n by omega]

/-! ### Reading back -/

/-- The written form of one character is read as that character. -/
theorem readFrom_quoteChar (c : Char) (rest : List Char) :
    readFrom .plain (quoteChar c ++ rest) = push c (readFrom .plain rest) := by
  have hne : escape ≠ delimiter := by decide
  by_cases hd : c = delimiter
  · subst hd
    simp [quoteChar, readFrom]
  by_cases he : c = escape
  · subst he
    simp [quoteChar, readFrom, hne]
  by_cases hc : Text.isControl c = true
  · -- The number of a character is valid, so that the escape stands for it again.
    have hvalid : c.toNat.isValidChar := c.valid
    rw [quoteChar, if_neg hd, if_neg he, if_pos hc]
    simp only [List.append_assoc, List.cons_append, List.nil_append]
    rw [readFrom, if_neg hne, if_pos rfl, readFrom, if_neg (by decide), if_pos rfl,
      readFrom_toDigits, readFrom, if_pos rfl]
    simp [hvalid]
  · simp [quoteChar, readFrom, hd, he, hc]

/-- Inside the quotes all characters are read up to the closing quote. -/
theorem readFrom_flatMap_quoteChar (cs rest : List Char) (h : rest.head? ≠ some delimiter) :
    readFrom .plain (cs.flatMap quoteChar ++ delimiter :: rest) = some (cs, rest) := by
  induction cs with
  | nil =>
    rw [List.flatMap_nil, List.nil_append, readFrom, if_pos rfl]
    -- The closing quote is the last of the atom only if no other follows it.
    cases rest with
    | nil => rfl
    | cons c rest =>
      have hc : c ≠ delimiter := by simpa using h
      rw [readFrom, if_neg hc]
  | cons c cs ih =>
    rw [List.flatMap_cons, List.append_assoc, readFrom_quoteChar, ih]
    rfl

/-- **Reading undoes quoting.** The reader takes exactly the atom, and leaves what follows
    it, unless that begins with a quote and so goes on with the atom. -/
theorem read_quoteChars (cs rest : List Char) (h : rest.head? ≠ some delimiter) :
    read (quoteChars cs ++ rest) = some (cs, rest) := by
  simp only [quoteChars, List.append_assoc, List.cons_append, List.nil_append]
  rw [read, if_pos rfl, readFrom_flatMap_quoteChar cs rest h]

/-! ### Control characters -/

/-- None of the characters is a control character. -/
def NoControl (cs : List Char) : Prop := ∀ c ∈ cs, Text.isControl c = false

/-- Texts without control characters make one without, put together. -/
theorem NoControl.append {cs ds : List Char} (hc : NoControl cs) (hd : NoControl ds) :
    NoControl (cs ++ ds) := by
  intro c h
  rcases List.mem_append.mp h with h | h
  · exact hc c h
  · exact hd c h

/-- A character that is no control character is a text without any. -/
theorem noControl_singleton {c : Char} (h : Text.isControl c = false) : NoControl [c] := by
  intro d hd
  rw [List.mem_singleton.mp hd]
  exact h

/-- No digit of a number in hexadecimal is a control character. -/
theorem noControl_toDigits (n : Nat) : NoControl (Nat.toDigits 16 n) := by
  induction n using Nat.strongRecOn with
  | _ n ih =>
    by_cases hn : n < 16
    · rw [Nat.toDigits_of_lt_base hn]
      exact noControl_singleton (isControl_digitChar n hn)
    · rw [Nat.toDigits_of_base_le (by decide) (by omega)]
      have hlast : n % 16 < 16 := Nat.mod_lt n (by decide)
      exact (ih (n / 16) (by omega)).append (noControl_singleton (isControl_digitChar _ hlast))

/-- The written form of a character has no control character. -/
theorem noControl_quoteChar (c : Char) : NoControl (quoteChar c) := by
  have hdelimiter : NoControl [delimiter] := noControl_singleton (by decide)
  have hescape : NoControl [escape] := noControl_singleton (by decide)
  have hopen : NoControl [escape, 'x'] := hescape.append (noControl_singleton (by decide))
  unfold quoteChar
  -- Control characters are the ones that are written by a number.
  split
  · exact hdelimiter.append hdelimiter
  · split
    · exact hescape.append hescape
    · split
      · exact (hopen.append (noControl_toDigits _)).append hescape
      · next hc => exact noControl_singleton (by simpa using hc)

/-- The written form of an atom has no control character. -/
theorem noControl_quoteChars (cs : List Char) : NoControl (quoteChars cs) := by
  have hquote : NoControl [delimiter] := noControl_singleton (by decide)
  refine (hquote.append fun d hd => ?_).append hquote
  obtain ⟨c, -, hd⟩ := List.mem_flatMap.mp hd
  exact noControl_quoteChar c d hd

/-! ### What follows an atom -/

/-- A character was put in front of what was read behind it. -/
theorem exists_of_push_eq_some {c : Char} {o : Option (List Char × List Char)}
    {atom rest : List Char} (h : push c o = some (atom, rest)) :
    ∃ atom', o = some (atom', rest) ∧ atom = c :: atom' := by
  cases o with
  | none => cases h
  | some result =>
    obtain ⟨hatom, hrest⟩ := Prod.mk.inj (Option.some.inj h)
    exact ⟨result.1, by rw [← hrest], hatom.symm⟩

/-- What follows an atom is no longer than what was read. -/
theorem length_le_of_readFrom {mode : Mode} {cs atom rest : List Char}
    (h : readFrom mode cs = some (atom, rest)) : rest.length ≤ cs.length := by
  -- Each step of the reader takes a character, and puts none back.
  fun_induction readFrom mode cs generalizing atom
  all_goals grind [exists_of_push_eq_some]

/-- What follows an atom is shorter than what was read: the first quote is gone. -/
theorem length_lt_of_read {cs atom rest : List Char} (h : read cs = some (atom, rest)) :
    rest.length < cs.length := by
  cases cs with
  | nil => simp [read] at h
  | cons c cs =>
    rw [read] at h
    split at h
    · have := length_le_of_readFrom h
      rw [List.length_cons]; omega
    · simp at h

end ZoneAccess.Atom

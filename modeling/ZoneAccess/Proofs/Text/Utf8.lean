import ZoneAccess.Text.Utf8

namespace ZoneAccess.Utf8

/-!
# Texts and their bytes

* `parts_encodeChars_append` — the bytes of characters are read as the characters, whatever bytes
  follow them;
* `decode?_encode`, `decodeLossy_encode` — so the bytes of a text are read as the text;
* `encode_inj` — hence texts with the same bytes are the same;
* `toNat_of_mem_encodeChar` — a byte of ASCII is among the bytes of its own character only;
* `lineFeed_mem_encode` — hence a line feed is among the bytes of a text only if it is one of its
  characters.
-/

/-! ### Bytes inside a character -/

/-- A number below 256 is that of its byte. -/
theorem toNat_byte {n : Nat} (h : n < 256) : (UInt8.ofNat n).toNat = n := by
  rw [UInt8.toNat_ofNat']
  exact Nat.mod_eq_of_lt h

/-- What a byte completes, then what the rest does from the stage that it leads to. -/
theorem partsFrom_cons (stage : Stage) (b : UInt8) (bs : Bytes) :
    partsFrom stage (b :: bs)
      = (step stage b.toNat).1 ++ partsFrom (step stage b.toNat).2 bs := by
  cases stage <;> rfl

/-- The first byte of several begins a character. -/
theorem partsFrom_lead {b : Nat} {stage : Stage} (hb : b < 256) (h : lead b = ([], stage))
    (rest : Bytes) : partsFrom .outside (UInt8.ofNat b :: rest) = partsFrom stage rest := by
  rw [partsFrom_cons, toNat_byte hb, step, h]
  rfl

/-- A byte behind the first is at least 0x80. -/
theorem le_tail (k : Nat) : 0x80 ≤ 0x80 + k % 0x40 := Nat.le_add_right _ _

/-- It is at most 0xBF. -/
theorem tail_le (k : Nat) : 0x80 + k % 0x40 ≤ 0xBF := by omega

section Inside

variable {value lo hi k : Nat} (hlo : lo ≤ 0x80 + k % 0x40) (hhi : 0x80 + k % 0x40 ≤ hi)
  (rest : Bytes)
include hlo hhi

/-- The last byte of a character ends it. -/
theorem partsFrom_last :
    partsFrom (.inside value 1 lo hi) (UInt8.ofNat (0x80 + k % 0x40) :: rest)
      = some (Char.ofNat (value * 0x40 + k % 0x40)) :: partsFrom .outside rest := by
  -- What is added to 0x80 has six bits, so the byte is one and can be taken back.
  have hbyte : 0x80 + k % 0x40 < 256 := by omega
  rw [partsFrom_cons, toNat_byte hbyte, step, if_pos (by simp only [hlo, hhi]; rfl),
    Nat.add_sub_cancel_left]
  rfl

/-- A byte before the last goes on with it. -/
theorem partsFrom_next (more : Nat) :
    partsFrom (.inside value (more + 2) lo hi) (UInt8.ofNat (0x80 + k % 0x40) :: rest)
      = partsFrom (.inside (value * 0x40 + k % 0x40) (more + 1) 0x80 0xBF) rest := by
  have hbyte : 0x80 + k % 0x40 < 256 := by omega
  rw [partsFrom_cons, toNat_byte hbyte, step, if_pos (by simp only [hlo, hhi]; rfl),
    Nat.add_sub_cancel_left]
  rfl

end Inside

/-! ### First bytes -/

section Lead

variable {n : Nat}

/-- The first of two bytes. -/
theorem lead_two (h : 0x80 ≤ n) (h' : n < 0x800) :
    lead (0xC0 + n / 0x40) = ([], .inside (n / 0x40) 1 0x80 0xBF) := by
  rw [lead, if_neg (by omega), if_pos (by simp only [Bool.and_eq_true, decide_eq_true_eq]; omega),
    Nat.add_sub_cancel_left]

/-- The first of three bytes lets the second be what it is in a character. -/
theorem lead_three (h : 0x800 ≤ n) (h' : n < 0x10000) (hvalid : n < 0xD800 ∨ 0xDFFF < n) :
    ∃ lo hi, lead (0xE0 + n / 0x1000) = ([], .inside (n / 0x1000) 2 lo hi) ∧
      lo ≤ 0x80 + n / 0x40 % 0x40 ∧ 0x80 + n / 0x40 % 0x40 ≤ hi := by
  -- It confines it behind two first bytes: short numbers, and surrogates.
  by_cases hshort : n / 0x1000 = 0
  · refine ⟨0xA0, 0xBF, ?_, by omega, by omega⟩
    rw [hshort]
    rfl
  · by_cases hsurrogate : n / 0x1000 = 0xD
    · refine ⟨0x80, 0x9F, ?_, by omega, by omega⟩
      rw [hsurrogate]
      rfl
    · refine ⟨0x80, 0xBF, ?_, by omega, by omega⟩
      rw [lead, if_neg (by omega),
        if_neg (by simp only [Bool.and_eq_true, decide_eq_true_eq]; omega),
        if_neg (by omega), if_neg (by omega),
        if_pos (by simp only [Bool.and_eq_true, decide_eq_true_eq]; omega),
        Nat.add_sub_cancel_left]

/-- So does the first of four bytes. -/
theorem lead_four (h : 0x10000 ≤ n) (h' : n < 0x110000) :
    ∃ lo hi, lead (0xF0 + n / 0x40000) = ([], .inside (n / 0x40000) 3 lo hi) ∧
      lo ≤ 0x80 + n / 0x1000 % 0x40 ∧ 0x80 + n / 0x1000 % 0x40 ≤ hi := by
  -- There are five of them; the first and the last confine the second byte.
  obtain hfirst | hfirst | hfirst | hfirst | hfirst : n / 0x40000 = 0 ∨ n / 0x40000 = 1 ∨
      n / 0x40000 = 2 ∨ n / 0x40000 = 3 ∨ n / 0x40000 = 4 := by omega
  · exact ⟨0x90, 0xBF, by rw [hfirst]; rfl, by omega, by omega⟩
  · exact ⟨0x80, 0xBF, by rw [hfirst]; rfl, by omega, by omega⟩
  · exact ⟨0x80, 0xBF, by rw [hfirst]; rfl, by omega, by omega⟩
  · exact ⟨0x80, 0xBF, by rw [hfirst]; rfl, by omega, by omega⟩
  · exact ⟨0x80, 0x8F, by rw [hfirst]; rfl, by omega, by omega⟩

end Lead

/-! ### Characters -/

/-- The number of a character is no surrogate, and not past the last. -/
theorem toNat_valid (c : Char) : c.toNat < 0xD800 ∨ 0xDFFF < c.toNat ∧ c.toNat < 0x110000 :=
  c.valid

/-- Every other number is that of a character. -/
theorem toNat_ofNat_of_valid {n : Nat} (h : n < 0xD800 ∨ 0xDFFF < n ∧ n < 0x110000) :
    (Char.ofNat n).toNat = n := by
  rw [Char.ofNat, dif_pos h]
  rfl

/-- The bytes of a character are read as the character. -/
theorem partsFrom_encodeChar (c : Char) (rest : Bytes) :
    partsFrom .outside (encodeChar c ++ rest) = some c :: partsFrom .outside rest := by
  have hvalid := toNat_valid c
  rw [encodeChar]
  generalize hn : c.toNat = n at hvalid
  have hc : Char.ofNat n = c := by rw [← hn, Char.ofNat_toNat]
  -- By the number of bytes: the first tells the stage, and the others lead through it.
  by_cases hone : n < 0x80
  · have hlead : lead n = ([some c], .outside) := by rw [lead, if_pos hone, hc]
    rw [if_pos hone, List.singleton_append, partsFrom_cons, toNat_byte (by omega), step, hlead]
    rfl
  · rw [if_neg hone]
    by_cases htwo : n < 0x800
    · have hvalue : n / 0x40 * 0x40 + n % 0x40 = n := Nat.div_add_mod' n 0x40
      rw [if_pos htwo]
      simp only [List.cons_append, List.nil_append]
      rw [partsFrom_lead (by omega) (lead_two (by omega) htwo),
        partsFrom_last (le_tail n) (tail_le n), hvalue, hc]
    · rw [if_neg htwo]
      by_cases hthree : n < 0x10000
      · have hvalue : (n / 0x1000 * 0x40 + n / 0x40 % 0x40) * 0x40 + n % 0x40 = n := by omega
        obtain ⟨lo, hi, hlead, hlo, hhi⟩ := lead_three (by omega) hthree (by omega)
        rw [if_pos hthree]
        simp only [List.cons_append, List.nil_append]
        rw [partsFrom_lead (by omega) hlead, partsFrom_next hlo hhi,
          partsFrom_last (le_tail n) (tail_le n), hvalue, hc]
      · have hvalue : ((n / 0x40000 * 0x40 + n / 0x1000 % 0x40) * 0x40 + n / 0x40 % 0x40) * 0x40
            + n % 0x40 = n := by omega
        have hmax : n < 0x110000 := by omega
        obtain ⟨lo, hi, hlead, hlo, hhi⟩ := lead_four (Nat.le_of_not_lt hthree) hmax
        rw [if_neg hthree]
        simp only [List.cons_append, List.nil_append]
        rw [partsFrom_lead (by omega) hlead, partsFrom_next hlo hhi,
          partsFrom_next (le_tail (n / 0x40)) (tail_le (n / 0x40)),
          partsFrom_last (le_tail n) (tail_le n), hvalue, hc]

/-- Every character has bytes. -/
theorem encodeChar_ne_nil (c : Char) : encodeChar c ≠ [] := by
  simp only [encodeChar]
  split
  · simp
  · split
    · simp
    · split <;> simp

/-- A byte of ASCII is among the bytes of no other character than its own. -/
theorem toNat_of_mem_encodeChar {c : Char} {b : UInt8} (hb : b.toNat < 0x80)
    (h : b ∈ encodeChar c) : c.toNat = b.toNat := by
  have hvalid := toNat_valid c
  have hbyte {k : Nat} (hk : k < 256) (heq : b = UInt8.ofNat k) : b.toNat = k := by
    rw [heq, toNat_byte hk]
  unfold encodeChar at h
  by_cases hone : c.toNat < 0x80
  · rw [if_pos hone, List.mem_singleton] at h
    exact (hbyte (by omega) h).symm
  · -- All bytes of other characters are too large.
    exfalso
    rw [if_neg hone] at h
    split at h
    · simp only [List.mem_cons, List.not_mem_nil, or_false] at h
      rcases h with h | h <;> have := hbyte (by omega) h <;> omega
    · split at h
      · simp only [List.mem_cons, List.not_mem_nil, or_false] at h
        rcases h with h | h | h <;> have := hbyte (by omega) h <;> omega
      · simp only [List.mem_cons, List.not_mem_nil, or_false] at h
        rcases h with h | h | h | h <;> have := hbyte (by omega) h <;> omega

/-! ### Texts -/

/-- The bytes of a text are those of its parts, one after the other. -/
@[simp] theorem encode_append (s t : String) : encode (s ++ t) = encode s ++ encode t := by
  simp [encode, encodeChars]

/-- An empty text has no bytes. -/
@[simp] theorem encode_empty : encode "" = [] := by
  simp [encode, encodeChars]

/-- The bytes of characters are read as the characters, and then what follows them. -/
theorem parts_encodeChars_append (cs : List Char) (rest : Bytes) :
    parts (encodeChars cs ++ rest) = cs.map some ++ parts rest := by
  unfold parts encodeChars
  induction cs with
  | nil => rfl
  | cons c cs ih =>
    rw [List.flatMap_cons, List.append_assoc, partsFrom_encodeChar, ih, List.map_cons,
      List.cons_append]

/-- The bytes of characters are read as these characters, none of them broken. -/
theorem parts_encodeChars (cs : List Char) : parts (encodeChars cs) = cs.map some := by
  have h := parts_encodeChars_append cs []
  rw [List.append_nil] at h
  rw [h]
  exact List.append_nil _

/-- Parts of which none is invalid are the characters. -/
theorem allChars_eq_some_iff {ps : List Part} {cs : List Char} :
    allChars ps = some cs ↔ ps = cs.map some := by
  constructor
  · intro h
    induction ps generalizing cs with
    | nil =>
      obtain rfl := Option.some.inj h
      rfl
    | cons p ps ih =>
      cases p with
      | none => cases h
      | some c =>
        obtain ⟨cs', hrest, rfl⟩ := Option.map_eq_some_iff.mp h
        rw [ih hrest, List.map_cons]
  · rintro rfl
    induction cs with
    | nil => rfl
    | cons c cs ih => rw [List.map_cons, allChars, ih, Option.map_some]

/-- Characters are read back from their bytes. -/
theorem decodeChars?_encodeChars (cs : List Char) : decodeChars? (encodeChars cs) = some cs := by
  rw [decodeChars?, parts_encodeChars]
  exact allChars_eq_some_iff.mpr rfl

/-- Bytes of characters are decoded whether what follows them can be decoded or not. -/
theorem decodeCharsLossy_encodeChars_append (cs : List Char) (rest : Bytes) :
    decodeCharsLossy (encodeChars cs ++ rest) = cs ++ decodeCharsLossy rest := by
  rw [decodeCharsLossy, parts_encodeChars_append, List.map_append, List.map_map]
  have hchar : (fun part : Part => part.getD (Char.ofNat 0xFFFD)) ∘ some = id := rfl
  rw [hchar, List.map_id, decodeCharsLossy]

/-- So they are by the reading that replaces what is broken. -/
theorem decodeCharsLossy_encodeChars (cs : List Char) :
    decodeCharsLossy (encodeChars cs) = cs := by
  have h := decodeCharsLossy_encodeChars_append cs []
  rw [List.append_nil] at h
  rw [h]
  exact List.append_nil _

/-- **The bytes of a text are read as the text.** -/
@[simp] theorem decode?_encode (s : String) : decode? (encode s) = some s := by
  rw [decode?, encode, decodeChars?_encodeChars, Option.map_some, String.ofList_toList]

/-- A text is read back from its bytes, also by the lossy reading. -/
@[simp] theorem decodeLossy_encode (s : String) : decodeLossy (encode s) = s := by
  rw [decodeLossy, encode, decodeCharsLossy_encodeChars, String.ofList_toList]

/-- Texts with the same bytes are the same. -/
@[simp] theorem encode_inj {s t : String} : encode s = encode t ↔ s = t := by
  constructor
  · intro h
    have hread := congrArg decode? h
    rwa [decode?_encode, decode?_encode, Option.some.injEq] at hread
  · rintro rfl
    rfl

/-- A text without a line feed has none among its bytes. -/
theorem lineFeed_mem_encode {s : String} (h : 10 ∈ encode s) : '\n' ∈ s.toList := by
  obtain ⟨c, hc, hbyte⟩ := List.mem_flatMap.mp h
  have hnumber : c.toNat = '\n'.toNat := toNat_of_mem_encodeChar (by decide) hbyte
  rwa [← Char.toNat_inj.mp hnumber]

end ZoneAccess.Utf8

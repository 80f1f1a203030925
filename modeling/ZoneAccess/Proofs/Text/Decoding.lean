import ZoneAccess.Proofs.Text.Utf8

namespace ZoneAccess.Utf8

/-!
# Bytes that are a text

Nothing but the bytes of a text is decoded as the text.

* `lead_cases` — what the first byte of a character lets the second be;
* `encodeChar_two`, `encodeChar_three`, `encodeChar_four` — bytes within those bounds are those of
  the character that they are decoded as;
* `exists_char` — bytes whose first part is a character begin with those of the character;
* `parts_eq_append_iff` — so do bytes whose first parts are characters, for all of them;
* `mem_encodeChars_iff` — a byte of ASCII is found among bytes of characters as its character is
  among these;
* `decode?_eq_some_iff` — bytes are decoded as a text exactly if they are its bytes;
* `decodeCharsLossy_eq_append_iff` — where invalid parts are replaced, the characters in front of
  the first replacement still stand for their own bytes.
-/

/-! ### Bytes behind the first -/

section Inside

variable {value lo hi : Nat} {bs : Bytes} {c : Char} {ps : List Part}

/-- The last byte of a character stands within the bounds and ends it. -/
theorem exists_last (h : partsFrom (.inside value 1 lo hi) bs = some c :: ps) :
    ∃ b rest, bs = b :: rest ∧ (lo ≤ b.toNat ∧ b.toNat ≤ hi) ∧
      Char.ofNat (value * 0x40 + (b.toNat - 0x80)) = c ∧ partsFrom .outside rest = ps := by
  cases bs with
  | nil => cases h
  | cons b rest =>
    rw [partsFrom_cons, step] at h
    by_cases hb : lo ≤ b.toNat ∧ b.toNat ≤ hi
    · rw [if_pos (by simpa using hb)] at h
      obtain ⟨hc, hrest⟩ := List.cons.inj h
      exact ⟨b, rest, rfl, hb, Option.some.inj hc, hrest⟩
    · -- A byte that breaks the character off leaves an invalid part.
      rw [if_neg (by simpa using hb)] at h
      cases h

/-- One before the last stands within the bounds and goes on with it. -/
theorem exists_next {more : Nat}
    (h : partsFrom (.inside value (more + 2) lo hi) bs = some c :: ps) :
    ∃ b rest, bs = b :: rest ∧ (lo ≤ b.toNat ∧ b.toNat ≤ hi) ∧
      partsFrom (.inside (value * 0x40 + (b.toNat - 0x80)) (more + 1) 0x80 0xBF) rest
        = some c :: ps := by
  cases bs with
  | nil => cases h
  | cons b rest =>
    rw [partsFrom_cons, step] at h
    by_cases hb : lo ≤ b.toNat ∧ b.toNat ≤ hi
    · rw [if_pos (by simpa using hb)] at h
      exact ⟨b, rest, rfl, hb, h⟩
    · rw [if_neg (by simpa using hb)] at h
      cases h

end Inside

/-! ### First bytes -/

/-- The bounds of the second byte of three, which rule out short numbers and surrogates. -/
def BoundsThree (b lo hi : Nat) : Prop :=
  0x80 ≤ lo ∧ hi ≤ 0xBF ∧ (b = 0xE0 → 0xA0 ≤ lo) ∧ (b = 0xED → hi ≤ 0x9F)

/-- The bounds of the second byte of four, which rule out short numbers and those past the last
    character. -/
def BoundsFour (b lo hi : Nat) : Prop :=
  0x80 ≤ lo ∧ hi ≤ 0xBF ∧ (b = 0xF0 → 0x90 ≤ lo) ∧ (b = 0xF4 → hi ≤ 0x8F)

/-- What a byte outside a character does. -/
theorem lead_cases (b : Nat) :
    (b < 0x80 ∧ lead b = ([some (Char.ofNat b)], .outside)) ∨
    ((0xC2 ≤ b ∧ b ≤ 0xDF) ∧ lead b = ([], .inside (b - 0xC0) 1 0x80 0xBF)) ∨
    ((0xE0 ≤ b ∧ b ≤ 0xEF) ∧
      ∃ lo hi, lead b = ([], .inside (b - 0xE0) 2 lo hi) ∧ BoundsThree b lo hi) ∨
    ((0xF0 ≤ b ∧ b ≤ 0xF4) ∧
      ∃ lo hi, lead b = ([], .inside (b - 0xF0) 3 lo hi) ∧ BoundsFour b lo hi) ∨
    lead b = ([none], .outside) := by
  unfold BoundsThree BoundsFour
  -- The rows of the table, from the top; the bytes that it leaves out are invalid.
  fun_cases lead b
  case case1 hone => exact .inl ⟨hone, rfl⟩
  case case2 htwo => exact .inr (.inl ⟨by simpa using htwo, rfl⟩)
  case case3 hb =>
    exact .inr (.inr (.inl ⟨by omega, 0xA0, 0xBF, by rw [hb], by omega⟩))
  case case4 hb =>
    exact .inr (.inr (.inl ⟨by omega, 0x80, 0x9F, by rw [hb], by omega⟩))
  case case5 hthree =>
    have hb : 0xE1 ≤ b ∧ b ≤ 0xEF := by simpa using hthree
    exact .inr (.inr (.inl ⟨by omega, 0x80, 0xBF, rfl, by omega⟩))
  case case6 hb =>
    exact .inr (.inr (.inr (.inl ⟨by omega, 0x90, 0xBF, by rw [hb], by omega⟩)))
  case case7 hfour =>
    have hb : 0xF1 ≤ b ∧ b ≤ 0xF3 := by simpa using hfour
    exact .inr (.inr (.inr (.inl ⟨by omega, 0x80, 0xBF, rfl, by omega⟩)))
  case case8 hb =>
    exact .inr (.inr (.inr (.inl ⟨by omega, 0x80, 0x8F, by rw [hb], by omega⟩)))
  case case9 => exact .inr (.inr (.inr (.inr rfl)))

/-! ### Characters -/

section Characters

variable {b b₂ b₃ b₄ : UInt8} {lo hi : Nat}

/-- A byte is written for its own number. -/
theorem ofNat_eq_byte (b : UInt8) {n : Nat} (h : n = b.toNat) : UInt8.ofNat n = b := by
  rw [h, UInt8.ofNat_toNat]

/-- A byte below 0x80 is that of a character. -/
theorem encodeChar_one (hb : b.toNat < 0x80) : encodeChar (Char.ofNat b.toNat) = [b] := by
  rw [encodeChar, toNat_ofNat_of_valid (by omega), if_pos hb, UInt8.ofNat_toNat]

/-- Two bytes within their bounds are those of a character. -/
theorem encodeChar_two (hb : 0xC2 ≤ b.toNat ∧ b.toNat ≤ 0xDF)
    (h₂ : 0x80 ≤ b₂.toNat ∧ b₂.toNat ≤ 0xBF) :
    encodeChar (Char.ofNat ((b.toNat - 0xC0) * 0x40 + (b₂.toNat - 0x80))) = [b, b₂] := by
  generalize hvalue : (b.toNat - 0xC0) * 0x40 + (b₂.toNat - 0x80) = n
  rw [encodeChar, toNat_ofNat_of_valid (by omega), if_neg (by omega), if_pos (by omega),
    ofNat_eq_byte b (by omega), ofNat_eq_byte b₂ (by omega)]

/-- So are three. -/
theorem encodeChar_three (hb : 0xE0 ≤ b.toNat ∧ b.toNat ≤ 0xEF)
    (hbounds : BoundsThree b.toNat lo hi) (h₂ : lo ≤ b₂.toNat ∧ b₂.toNat ≤ hi)
    (h₃ : 0x80 ≤ b₃.toNat ∧ b₃.toNat ≤ 0xBF) :
    encodeChar (Char.ofNat
        (((b.toNat - 0xE0) * 0x40 + (b₂.toNat - 0x80)) * 0x40 + (b₃.toNat - 0x80)))
      = [b, b₂, b₃] := by
  obtain ⟨hlo, hhi, hshort, hsurrogate⟩ := hbounds
  generalize hvalue :
    ((b.toNat - 0xE0) * 0x40 + (b₂.toNat - 0x80)) * 0x40 + (b₃.toNat - 0x80) = n
  -- The bounds keep the number above the shorter forms and off the surrogates.
  rw [encodeChar, toNat_ofNat_of_valid (by omega), if_neg (by omega), if_neg (by omega),
    if_pos (by omega), ofNat_eq_byte b (by omega), ofNat_eq_byte b₂ (by omega),
    ofNat_eq_byte b₃ (by omega)]

/-- So are four. -/
theorem encodeChar_four (hb : 0xF0 ≤ b.toNat ∧ b.toNat ≤ 0xF4)
    (hbounds : BoundsFour b.toNat lo hi) (h₂ : lo ≤ b₂.toNat ∧ b₂.toNat ≤ hi)
    (h₃ : 0x80 ≤ b₃.toNat ∧ b₃.toNat ≤ 0xBF) (h₄ : 0x80 ≤ b₄.toNat ∧ b₄.toNat ≤ 0xBF) :
    encodeChar (Char.ofNat
        ((((b.toNat - 0xF0) * 0x40 + (b₂.toNat - 0x80)) * 0x40 + (b₃.toNat - 0x80)) * 0x40
          + (b₄.toNat - 0x80)))
      = [b, b₂, b₃, b₄] := by
  obtain ⟨hlo, hhi, hshort, hlast⟩ := hbounds
  generalize hvalue : (((b.toNat - 0xF0) * 0x40 + (b₂.toNat - 0x80)) * 0x40
    + (b₃.toNat - 0x80)) * 0x40 + (b₄.toNat - 0x80) = n
  -- Here they keep it above the shorter forms and up to the last character.
  rw [encodeChar, toNat_ofNat_of_valid (by omega), if_neg (by omega), if_neg (by omega),
    if_neg (by omega), ofNat_eq_byte b (by omega), ofNat_eq_byte b₂ (by omega),
    ofNat_eq_byte b₃ (by omega), ofNat_eq_byte b₄ (by omega)]

end Characters

/-- Bytes whose first part is a character begin with those of the character. -/
theorem exists_char {bs : Bytes} {c : Char} {ps : List Part} (h : parts bs = some c :: ps) :
    ∃ rest, bs = encodeChar c ++ rest ∧ parts rest = ps := by
  cases bs with
  | nil => cases h
  | cons b bs =>
    rw [parts, partsFrom_cons, step] at h
    -- The first byte tells how many follow, and the reader has taken them one by one.
    obtain ⟨hb, hlead⟩ | ⟨hb, hlead⟩ | ⟨hb, lo, hi, hlead, hbounds⟩ |
      ⟨hb, lo, hi, hlead, hbounds⟩ | hlead := lead_cases b.toNat
    · rw [hlead] at h
      obtain ⟨hc, hrest⟩ := List.cons.inj h
      obtain rfl := Option.some.inj hc
      exact ⟨bs, by rw [encodeChar_one hb]; rfl, hrest⟩
    · rw [hlead] at h
      obtain ⟨b₂, rest, rfl, h₂, rfl, hrest⟩ := exists_last h
      exact ⟨rest, by rw [encodeChar_two hb h₂]; rfl, hrest⟩
    · rw [hlead] at h
      obtain ⟨b₂, bs, rfl, h₂, h⟩ := exists_next h
      obtain ⟨b₃, rest, rfl, h₃, rfl, hrest⟩ := exists_last h
      exact ⟨rest, by rw [encodeChar_three hb hbounds h₂ h₃]; rfl, hrest⟩
    · rw [hlead] at h
      obtain ⟨b₂, bs, rfl, h₂, h⟩ := exists_next h
      obtain ⟨b₃, bs, rfl, h₃, h⟩ := exists_next h
      obtain ⟨b₄, rest, rfl, h₄, rfl, hrest⟩ := exists_last h
      exact ⟨rest, by rw [encodeChar_four hb hbounds h₂ h₃ h₄]; rfl, hrest⟩
    · rw [hlead] at h
      cases h

/-- Bytes begin with those of characters exactly if their first parts are the characters. -/
theorem parts_eq_append_iff {bs : Bytes} {cs : List Char} {ps : List Part} :
    parts bs = cs.map some ++ ps ↔ ∃ rest, bs = encodeChars cs ++ rest ∧ parts rest = ps := by
  constructor
  · intro h
    -- On the characters, since each of them takes several bytes.
    induction cs generalizing bs with
    | nil => exact ⟨bs, rfl, h⟩
    | cons c cs ih =>
      obtain ⟨behind, rfl, hbehind⟩ := exists_char h
      obtain ⟨rest, rfl, hrest⟩ := ih hbehind
      refine ⟨rest, ?_, hrest⟩
      rw [encodeChars, encodeChars, List.flatMap_cons, List.append_assoc]
  · rintro ⟨rest, rfl, rfl⟩
    exact parts_encodeChars_append cs rest

/-- A byte of ASCII is among the bytes of characters exactly if its own character is one of them. -/
theorem mem_encodeChars_iff {b : UInt8} {cs : List Char} (hb : b.toNat < 0x80) :
    b ∈ encodeChars cs ↔ Char.ofNat b.toNat ∈ cs := by
  constructor
  · intro h
    obtain ⟨c, hc, hbyte⟩ := List.mem_flatMap.mp h
    rwa [← toNat_of_mem_encodeChar hb hbyte, Char.ofNat_toNat]
  · intro h
    refine List.mem_flatMap.mpr ⟨_, h, ?_⟩
    rw [encodeChar_one hb]
    exact List.mem_singleton.mpr rfl

/-! ### Texts -/

/-- A character that has begun leaves a part, since what is not finished is an invalid one. -/
theorem partsFrom_inside_ne_nil (value more lo hi : Nat) (bs : Bytes) :
    partsFrom (.inside value more lo hi) bs ≠ [] := by
  induction bs generalizing value more lo hi with
  | nil => exact List.cons_ne_nil _ _
  | cons b bs ih =>
    rw [partsFrom_cons, step]
    split
    · split
      · exact List.cons_ne_nil _ _
      · exact ih _ _ _ _
    · exact List.cons_ne_nil _ _

/-- So no bytes are without parts. -/
theorem eq_nil_of_parts_eq_nil {bs : Bytes} (h : parts bs = []) : bs = [] := by
  cases bs with
  | nil => rfl
  | cons b bs =>
    rw [parts, partsFrom_cons, step] at h
    obtain ⟨-, hlead⟩ | ⟨-, hlead⟩ | ⟨-, lo, hi, hlead, -⟩ | ⟨-, lo, hi, hlead, -⟩ | hlead :=
      lead_cases b.toNat
    · rw [hlead] at h
      cases h
    · rw [hlead] at h
      exact absurd h (partsFrom_inside_ne_nil _ _ _ _ bs)
    · rw [hlead] at h
      exact absurd h (partsFrom_inside_ne_nil _ _ _ _ bs)
    · rw [hlead] at h
      exact absurd h (partsFrom_inside_ne_nil _ _ _ _ bs)
    · rw [hlead] at h
      cases h

/-- Bytes that are read as characters are those of the characters. -/
theorem encodeChars_of_decodeChars? {bs : Bytes} {cs : List Char}
    (h : decodeChars? bs = some cs) : encodeChars cs = bs := by
  have hparts : parts bs = cs.map some ++ [] := by
    rw [List.append_nil]
    exact allChars_eq_some_iff.mp h
  -- All parts are characters, so nothing is left behind them.
  obtain ⟨rest, hbytes, hrest⟩ := parts_eq_append_iff.mp hparts
  rw [hbytes, eq_nil_of_parts_eq_nil hrest, List.append_nil]

/-- **Bytes are read as a text exactly if they are its bytes.** -/
theorem decode?_eq_some_iff {bs : Bytes} {s : String} : decode? bs = some s ↔ encode s = bs := by
  constructor
  · intro h
    obtain ⟨cs, hcs, rfl⟩ := Option.map_eq_some_iff.mp h
    rw [encode, String.toList_ofList, encodeChars_of_decodeChars? hcs]
  · rintro rfl
    exact decode?_encode s

/-! ### Replacements -/

/-- Whatever is replaced, the characters in front of the first replacement stand for their own
    bytes. -/
theorem decodeCharsLossy_eq_append_iff {bs : Bytes} {cs behind : List Char}
    (h : Char.ofNat 0xFFFD ∉ cs) :
    decodeCharsLossy bs = cs ++ behind ↔
      ∃ rest, bs = encodeChars cs ++ rest ∧ decodeCharsLossy rest = behind := by
  constructor
  · intro hread
    obtain ⟨ps, qs, hparts, hcs, hbehind⟩ := List.map_eq_append_iff.mp hread
    have hvalid : ps = cs.map some := by
      rw [← hcs, List.map_map]
      refine (List.map_id ps).symm.trans (List.map_congr_left fun part hpart => ?_)
      cases part with
      | some c => rfl
      | none =>
        -- An invalid part would be read as the character that is not there.
        exact absurd (hcs ▸ List.mem_map_of_mem hpart) h
    obtain ⟨rest, hbytes, hrest⟩ := parts_eq_append_iff.mp (hvalid ▸ hparts)
    exact ⟨rest, hbytes, by rw [decodeCharsLossy, hrest, hbehind]⟩
  · rintro ⟨rest, rfl, rfl⟩
    exact decodeCharsLossy_encodeChars_append cs rest

/-- Bytes that are read as no characters are none. -/
theorem eq_nil_of_decodeCharsLossy_eq_nil {bs : Bytes} (h : decodeCharsLossy bs = []) :
    bs = [] :=
  eq_nil_of_parts_eq_nil (List.map_eq_nil_iff.mp h)

end ZoneAccess.Utf8

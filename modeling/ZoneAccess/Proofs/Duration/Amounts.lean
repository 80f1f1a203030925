import Mathlib.Algebra.Group.Nat.Defs
import ZoneAccess.Duration

namespace ZoneAccess

/-!
# Durations as amounts

A duration is written as an amount of one unit, and the text tells the unit and the duration.

* `Duration.fraction` — what the places behind a point stand for. `Duration.fraction_places` and
  `Duration.places_fraction` say that places and fractions tell each other, where the places end in
  no zero (`Duration.getLast?_places_ne`);
* `TimeUnit`, `TimeUnit.Suits` — the units, and the one in which a duration is written: the largest
  in which the whole part is not zero;
* `Amount`, `Amount.read?`, `Amount.read?_text` — a number in decimal digits with its unit, a reader
  of such texts, and that it reads each one back;
* `Amount.Writes`, `Amount.Writes.unique` — which amount is the written form of a duration, and that
  there is one only;
* `Duration.exists_amount` — the text of a duration is such an amount;
* `Duration.text_inj` — durations with the same text are the same.
-/

namespace Duration

variable {width value : Nat}

/-! ### Places behind the point -/

/-- The fraction out of `10 ^ width` that the places behind a point stand for, once they are filled
    up with zeros. -/
def fraction (width : Nat) (digits : List Char) : Nat :=
  Nat.ofDigitChars 10 digits 0 * 10 ^ (width - digits.length)

/-- No digits are the fraction nought. -/
theorem fraction_nil (width : Nat) : fraction width [] = 0 := by
  rw [fraction, Nat.ofDigitChars_nil, Nat.zero_mul]

/-- A digit in front of others stands for as many wholes of the places behind it. -/
theorem fraction_cons {d : Nat} {digits : List Char} (hd : d < 10)
    (hlength : digits.length ≤ width) :
    fraction (width + 1) (Nat.digitChar d :: digits) = 10 ^ width * d + fraction width digits := by
  rw [fraction, Nat.ofDigitChars_cons_digitChar_of_lt_ten hd, Nat.mul_zero, Nat.zero_add,
    Nat.ofDigitChars_eq_ofDigitChars_zero, List.length_cons, Nat.add_sub_add_right, Nat.add_mul,
    Nat.mul_right_comm, ← Nat.pow_add, Nat.add_sub_cancel' hlength, fraction]

/-- A decimal digit is written for a number below ten. -/
theorem exists_digit {c : Char} (h : c.isDigit = true) : ∃ d < 10, c = Nat.digitChar d := by
  obtain ⟨hlow, hhigh⟩ := Char.isDigit_iff_toNat.mp h
  have hlow : 48 ≤ c.toNat := hlow
  have hhigh : c.toNat ≤ 57 := hhigh
  have hlt : c.toNat - 48 < 10 := by omega
  refine ⟨c.toNat - 48, hlt, Char.toNat_inj.mp ?_⟩
  rw [Nat.toNat_digitChar_of_lt_ten hlt]
  omega

/-- With a place more, the first digit is a decimal digit and the rest has a place less. -/
theorem split_value (h : value < 10 ^ (width + 1)) :
    value / 10 ^ width < 10 ∧ value % 10 ^ width < 10 ^ width := by
  constructor
  · apply Nat.div_lt_of_lt_mul
    rwa [← Nat.pow_succ]
  · exact Nat.mod_lt _ (Nat.pow_pos (by decide))

/-- A number has no places where there is room for none. -/
theorem places_zero (value : Nat) : places 0 value = [] := rfl

/-- With a place more, a digit comes in front, unless nothing is left to write. -/
theorem places_succ (width value : Nat) :
    places (width + 1) value = if value = 0 then [] else
      Nat.digitChar (value / 10 ^ width) :: places width (value % 10 ^ width) := rfl

/-- There are no more places than the width. -/
theorem length_places_le (width value : Nat) : (places width value).length ≤ width := by
  induction width generalizing value with
  | zero => exact Nat.le_refl 0
  | succ width ih =>
    rw [places_succ]
    split
    · exact Nat.zero_le _
    · exact Nat.succ_le_succ (ih _)

/-- The places of a number are digits. -/
theorem isDigit_of_mem_places (h : value < 10 ^ width) :
    ∀ c ∈ places width value, c.isDigit = true := by
  induction width generalizing value with
  | zero => simp [places_zero]
  | succ width ih =>
    obtain ⟨hfirst, hrest⟩ := split_value h
    rw [places_succ]
    split
    · simp
    · intro c hc
      cases hc with
      | head => rwa [Nat.isDigit_digitChar, decide_eq_true_iff]
      | tail _ hc => exact ih hrest c hc

/-- **Places stand for the whole fraction.** -/
theorem fraction_places (h : value < 10 ^ width) : fraction width (places width value) = value := by
  -- On the width, as the places are written: the first digit is split off each time.
  induction width generalizing value with
  | zero =>
    have hzero : value = 0 := by simpa using h
    rw [places_zero, fraction_nil, hzero]
  | succ width ih =>
    obtain ⟨hfirst, hrest⟩ := split_value h
    rw [places_succ]
    split
    · next hzero => rw [fraction_nil, hzero]
    · rw [fraction_cons hfirst (length_places_le width _), ih hrest]
      exact Nat.div_add_mod value (10 ^ width)

/-- There are no places exactly if there is no fraction. -/
theorem places_eq_nil_iff (h : value < 10 ^ width) : places width value = [] ↔ value = 0 := by
  constructor
  · intro hnil
    rw [← fraction_places h, hnil, fraction_nil]
  · rintro rfl
    cases width with
    | zero => rfl
    | succ width => rw [places_succ, if_pos rfl]

/-- **Places end in no zero.** -/
theorem getLast?_places_ne (h : value < 10 ^ width) :
    (places width value).getLast? ≠ some '0' := by
  induction width generalizing value with
  | zero => simp [places_zero]
  | succ width ih =>
    obtain ⟨hfirst, hrest⟩ := split_value h
    rw [places_succ]
    split
    · simp
    · next hne =>
      by_cases hnil : places width (value % 10 ^ width) = []
      · -- The first digit is the last, and it is all that there is.
        have hmod := (places_eq_nil_iff hrest).mp hnil
        have hdigit : value / 10 ^ width ≠ 0 := by
          intro hdiv
          apply hne
          rw [← Nat.div_add_mod value (10 ^ width), hdiv, hmod, Nat.mul_zero]
        rw [hnil, List.getLast?_singleton]
        intro hlast
        exact hdigit (Nat.digitChar_eq_zero.mp (Option.some.inj hlast))
      · rw [List.getLast?_cons_of_ne_nil hnil]
        exact ih hrest

/-- Digits stand for less than a whole. -/
theorem fraction_lt {digits : List Char} (hdigits : ∀ c ∈ digits, c.isDigit = true)
    (hlength : digits.length ≤ width) : fraction width digits < 10 ^ width := by
  induction digits generalizing width with
  | nil =>
    rw [fraction_nil]
    exact Nat.pow_pos (by decide)
  | cons c digits ih =>
    cases width with
    | zero => cases hlength
    | succ width =>
      obtain ⟨d, hd, rfl⟩ := exists_digit (hdigits c List.mem_cons_self)
      have hlength := Nat.le_of_succ_le_succ hlength
      have hrest := ih (fun c hc => hdigits c (List.mem_cons_of_mem _ hc)) hlength
      rw [fraction_cons hd hlength]
      -- The rest is less than one more of the first digit would be, and that digit is below ten.
      calc 10 ^ width * d + fraction width digits
          < 10 ^ width * d + 10 ^ width := Nat.add_lt_add_left hrest _
        _ = 10 ^ width * (d + 1) := (Nat.mul_succ _ _).symm
        _ ≤ 10 ^ width * 10 := Nat.mul_le_mul_left _ hd

/-- **Digits that end in no zero are the places of the fraction that they stand for.** -/
theorem places_fraction {digits : List Char} (hdigits : ∀ c ∈ digits, c.isDigit = true)
    (hlast : digits.getLast? ≠ some '0') (hlength : digits.length ≤ width) :
    places width (fraction width digits) = digits := by
  induction digits generalizing width with
  | nil => rw [fraction_nil, places_eq_nil_iff (Nat.pow_pos (by decide))]
  | cons c digits ih =>
    cases width with
    | zero => cases hlength
    | succ width =>
      obtain ⟨d, hd, rfl⟩ := exists_digit (hdigits c List.mem_cons_self)
      have hlength := Nat.le_of_succ_le_succ hlength
      have hrest : ∀ c ∈ digits, c.isDigit = true :=
        fun c hc => hdigits c (List.mem_cons_of_mem _ hc)
      have hlt := fraction_lt hrest hlength
      have hplaces : places width (fraction width digits) = digits := by
        apply ih hrest _ hlength
        by_cases hnil : digits = []
        · simp [hnil]
        · rwa [List.getLast?_cons_of_ne_nil hnil] at hlast
      have hdiv : (10 ^ width * d + fraction width digits) / 10 ^ width = d := by
        rw [Nat.mul_add_div (Nat.pow_pos (by decide)), Nat.div_eq_of_lt hlt, Nat.add_zero]
      have hmod : (10 ^ width * d + fraction width digits) % 10 ^ width
          = fraction width digits := by
        rw [Nat.mul_add_mod, Nat.mod_eq_of_lt hlt]
      -- If all of it were nothing, the first digit would be a zero and the last one.
      have hne : 10 ^ width * d + fraction width digits ≠ 0 := by
        intro hzero
        rw [hzero, Nat.zero_div] at hdiv
        rw [hzero, Nat.zero_mod] at hmod
        rw [← hmod, (places_eq_nil_iff (Nat.pow_pos (by decide))).mpr rfl] at hplaces
        subst hdiv
        subst hplaces
        exact hlast rfl
      rw [fraction_cons hd hlength, places_succ, if_neg hne, hdiv, hmod, hplaces]

end Duration

/-! ### Units -/

/-- The units in which durations are written. -/
inductive TimeUnit
  | seconds
  | milliseconds
  | microseconds
  | nanoseconds
  deriving DecidableEq

namespace TimeUnit

/-- The symbol of a unit. -/
def symbol : TimeUnit → String
  | seconds => "s"
  | milliseconds => "ms"
  | microseconds => "µs"
  | nanoseconds => "ns"

/-- The number of places behind the point that it takes to tell nanoseconds. -/
def width : TimeUnit → Nat
  | seconds => 9
  | milliseconds => 6
  | microseconds => 3
  | nanoseconds => 0

/-- A unit in nanoseconds. -/
def nanos (u : TimeUnit) : Nat := 10 ^ u.width

/-- The unit with a symbol. -/
def ofSymbol? (symbol : List Char) : Option TimeUnit :=
  [seconds, milliseconds, microseconds, nanoseconds].find? (·.symbol.toList = symbol)

/-- Every unit is found by its symbol. -/
theorem ofSymbol?_symbol (u : TimeUnit) : ofSymbol? u.symbol.toList = some u := by
  cases u <;> decide

/-- A symbol begins with a letter, so that it goes on with neither digits nor a fraction. -/
theorem exists_head_symbol (u : TimeUnit) :
    ∃ c cs, u.symbol.toList = c :: cs ∧ c.isDigit = false ∧ c ≠ '.' := by
  cases u with
  | seconds => exact ⟨'s', [], by decide⟩
  | milliseconds => exact ⟨'m', ['s'], by decide⟩
  | microseconds => exact ⟨'µ', ['s'], by decide⟩
  | nanoseconds => exact ⟨'n', ['s'], by decide⟩

/-- The unit in which a number of nanoseconds is written: the largest in which the whole part is
    not zero, and nanoseconds for nothing at all. -/
structure Suits (u : TimeUnit) (n : Nat) : Prop where
  whole : u = nanoseconds ∨ 0 < n / u.nanos
  largest : ∀ v : TimeUnit, 0 < n / v.nanos → v.nanos ≤ u.nanos

/-- A larger unit is at least a thousand times as large. -/
theorem thousandfold_le {u v : TimeUnit} (h : u.nanos < v.nanos) : 1000 * u.nanos ≤ v.nanos := by
  revert h
  cases u <;> cases v <;> decide

/-- No unit is larger than the second. -/
theorem nanos_le_seconds (u : TimeUnit) : u.nanos ≤ seconds.nanos := by
  cases u <;> decide

/-- A unit suits a number that reaches it, but not a thousand of it. -/
theorem Suits.of_le {u : TimeUnit} {n : Nat} (hwhole : u = nanoseconds ∨ u.nanos ≤ n)
    (hnext : u = seconds ∨ n < 1000 * u.nanos) : u.Suits n where
  whole := hwhole.imp_right fun h => Nat.div_pos h (Nat.pow_pos (by decide))
  largest v hv := by
    have hreached := (Nat.div_pos_iff.mp hv).2
    apply Nat.le_of_not_lt
    intro hlarger
    cases hnext with
    | inl hseconds =>
      subst hseconds
      exact Nat.not_le_of_lt hlarger v.nanos_le_seconds
    | inr hnext =>
      -- A larger unit is at least a thousand times as large, and so out of reach.
      have hbound := thousandfold_le hlarger
      omega

/-- A unit that suits a number is no larger than another that does. -/
theorem Suits.nanos_le {u v : TimeUnit} {n : Nat} (hu : u.Suits n) (hv : v.Suits n) :
    u.nanos ≤ v.nanos := by
  cases hu.whole with
  | inl hnanos =>
    subst hnanos
    exact Nat.pow_pos (by decide)
  | inr hwhole => exact hv.largest u hwhole

/-- One unit suits a number. -/
theorem Suits.unique {u v : TimeUnit} {n : Nat} (hu : u.Suits n) (hv : v.Suits n) : u = v := by
  have hnanos : u.nanos = v.nanos := Nat.le_antisymm (hu.nanos_le hv) (hv.nanos_le hu)
  revert hnanos
  cases u <;> cases v <;> decide

end TimeUnit

/-! ### Amounts -/

/-- A number of a unit: decimal digits before and behind the point. -/
structure Amount where
  whole : List Char
  part : List Char
  unit : TimeUnit
  deriving DecidableEq

namespace Amount

/-- The written form of an amount, with a point only if there is something behind it. -/
def text (a : Amount) : String :=
  String.ofList a.whole ++ (if a.part = [] then "" else "." ++ String.ofList a.part) ++
    a.unit.symbol

/-- An amount in nanoseconds, if it has no places beyond them. -/
def toNanos (a : Amount) : Nat :=
  a.unit.nanos * Nat.ofDigitChars 10 a.whole 0 + Duration.fraction a.unit.width a.part

/-- The amount that a text is: digits, perhaps a point and digits behind it, and a symbol. -/
def read? (s : String) : Option Amount :=
  let whole := s.toList.takeWhile Char.isDigit
  match s.toList.dropWhile Char.isDigit with
  | '.' :: rest =>
    (TimeUnit.ofSymbol? (rest.dropWhile Char.isDigit)).map
      (⟨whole, rest.takeWhile Char.isDigit, ·⟩)
  | rest => (TimeUnit.ofSymbol? rest).map (⟨whole, [], ·⟩)

/-- Digits end where the symbol of a unit begins. -/
theorem splits_before_symbol {digits : List Char} (h : ∀ c ∈ digits, c.isDigit = true)
    (u : TimeUnit) :
    (digits ++ u.symbol.toList).takeWhile Char.isDigit = digits ∧
      (digits ++ u.symbol.toList).dropWhile Char.isDigit = u.symbol.toList := by
  obtain ⟨c, cs, hsymbol, hdigit, -⟩ := u.exists_head_symbol
  rw [hsymbol, List.takeWhile_append_of_pos h, List.dropWhile_append_of_pos h,
    List.takeWhile_cons_of_neg (by simp [hdigit]), List.dropWhile_cons_of_neg (by simp [hdigit]),
    List.append_nil]
  exact ⟨rfl, rfl⟩

/-- **An amount is read back from its text**, if its digits are digits. -/
theorem read?_text {a : Amount} (hwhole : ∀ c ∈ a.whole, c.isDigit = true)
    (hpart : ∀ c ∈ a.part, c.isDigit = true) : read? a.text = some a := by
  -- Without places there is no point, and then the symbol must not begin with one.
  by_cases hnil : a.part = []
  · have htext : a.text.toList = a.whole ++ a.unit.symbol.toList := by simp [text, hnil]
    obtain ⟨htake, hdrop⟩ := splits_before_symbol hwhole a.unit
    obtain ⟨c, cs, hsymbol, -, hpoint⟩ := a.unit.exists_head_symbol
    rw [read?, htext, htake, hdrop]
    split
    · next rest hrest =>
      rw [hsymbol] at hrest
      exact absurd (List.head_eq_of_cons_eq hrest) hpoint
    · rw [TimeUnit.ofSymbol?_symbol, ← hnil]
      rfl
  · have htext : a.text.toList = a.whole ++ '.' :: (a.part ++ a.unit.symbol.toList) := by
      simp [text, hnil]
    obtain ⟨htake, hdrop⟩ := splits_before_symbol hpart a.unit
    have hpoint : ¬ '.'.isDigit = true := by decide
    rw [read?, htext, List.takeWhile_append_of_pos hwhole, List.dropWhile_append_of_pos hwhole,
      List.takeWhile_cons_of_neg hpoint, List.dropWhile_cons_of_neg hpoint, List.append_nil]
    show (TimeUnit.ofSymbol? _).map _ = _
    rw [htake, hdrop, TimeUnit.ofSymbol?_symbol]
    rfl

example : read? "1.25ms" = some ⟨['1'], ['2', '5'], .milliseconds⟩ := by decide

/-! ### The written form of a duration -/

/-- A number of nanoseconds as an amount of a unit. -/
def ofNanos (u : TimeUnit) (n : Nat) : Amount :=
  ⟨Nat.toDigits 10 (n / u.nanos), Duration.places u.width (n % u.nanos), u⟩

/-- What makes an amount the written form of a duration: it is in the unit that suits, the digits of
    the whole part have no zeros in front and the places none behind, and nothing is rounded. -/
structure Writes (a : Amount) (d : Duration) : Prop where
  unit : a.unit.Suits d.toNanos
  whole : a.whole = Nat.toDigits 10 (d.toNanos / a.unit.nanos)
  isDigit : ∀ c ∈ a.part, c.isDigit = true
  fits : a.part.length ≤ a.unit.width
  last : a.part.getLast? ≠ some '0'
  exact : a.toNanos = d.toNanos

/-- The fraction of a number of nanoseconds in a unit has room in the unit's places. -/
theorem mod_nanos_lt (u : TimeUnit) (n : Nat) : n % u.nanos < 10 ^ u.width :=
  Nat.mod_lt n (Nat.pow_pos (by decide))

/-- As an amount of any unit, a number of nanoseconds is what it was. -/
theorem toNanos_ofNanos (u : TimeUnit) (n : Nat) : (ofNanos u n).toNanos = n := by
  rw [toNanos, ofNanos, Nat.ofDigitChars_ten_toDigits,
    Duration.fraction_places (mod_nanos_lt u n)]
  exact Nat.div_add_mod n u.nanos

/-- In the unit that suits it, a duration is the amount that writes it. -/
theorem writes_ofNanos {u : TimeUnit} {d : Duration} (h : u.Suits d.toNanos) :
    (ofNanos u d.toNanos).Writes d where
  unit := h
  whole := rfl
  isDigit := Duration.isDigit_of_mem_places (mod_nanos_lt u d.toNanos)
  fits := Duration.length_places_le u.width _
  last := Duration.getLast?_places_ne (mod_nanos_lt u d.toNanos)
  exact := toNanos_ofNanos u d.toNanos

/-- What writes a duration is told by its unit. -/
theorem Writes.eq_ofNanos {a : Amount} {d : Duration} (h : a.Writes d) :
    a = ofNanos a.unit d.toNanos := by
  have hexact := h.exact
  have hpart : Duration.places a.unit.width (Duration.fraction a.unit.width a.part) = a.part :=
    Duration.places_fraction h.isDigit h.last h.fits
  rw [toNanos, h.whole, Nat.ofDigitChars_ten_toDigits] at hexact
  -- Whole part and fraction make up all the nanoseconds, so the fraction is what is left.
  have hmod : Duration.fraction a.unit.width a.part = d.toNanos % a.unit.nanos := by
    have hsplit := Nat.div_add_mod d.toNanos a.unit.nanos
    omega
  rw [hmod] at hpart
  rw [ofNanos, ← h.whole, hpart]

/-- **A duration has one written form.** -/
theorem Writes.unique {a b : Amount} {d : Duration} (ha : a.Writes d) (hb : b.Writes d) :
    a = b := by
  rw [ha.eq_ofNanos, ha.unit.unique hb.unit, ← hb.eq_ofNanos]

/-- The written form of a duration is read back. -/
theorem Writes.read?_text {a : Amount} {d : Duration} (h : a.Writes d) :
    read? a.text = some a := by
  apply Amount.read?_text
  · intro c hc
    rw [h.whole] at hc
    exact Nat.isDigit_of_mem_toDigits (by decide) (by decide) hc
  · exact h.isDigit

/-- A number in a unit, whole part and fraction apart, is written as an amount. -/
theorem measure_eq_text (u : TimeUnit) (n : Nat) :
    Duration.measure (n / u.nanos) (n % u.nanos) u.width u.symbol = (ofNanos u n).text := by
  have hnil := Duration.places_eq_nil_iff (mod_nanos_lt u n)
  rw [Duration.measure, text, ofNanos, Nat.toString_eq_ofList_toDigits]
  simp only [hnil]

end Amount

namespace Duration

/-- A duration is determined by its nanoseconds. -/
theorem toNanos_inj {d d' : Duration} (h : d.toNanos = d'.toNanos) : d = d' := by
  obtain ⟨secs, nanos, hnanos⟩ := d
  obtain ⟨secs', nanos', hnanos'⟩ := d'
  rw [toNanos, toNanos] at h
  -- The nanoseconds stay below a second, so both parts can be told from the sum.
  have hsecs : secs = secs' := UInt64.toNat_inj.mp (by simp only at h; omega)
  subst hsecs
  congr
  simp only at h
  omega

/-- **The unit of a text is the one that suits the duration.** -/
theorem exists_unit (d : Duration) :
    ∃ u : TimeUnit, u.Suits d.toNanos ∧ d.text = (Amount.ofNanos u d.toNanos).text := by
  have hnanos := d.nanos_lt
  -- From the largest unit down, the first that the duration reaches.
  by_cases hsecs : 0 < d.secs.toNat
  · have hwhole : d.toNanos / 1000000000 = d.secs.toNat := by rw [toNanos]; omega
    have hpart : d.toNanos % 1000000000 = d.nanos := by rw [toNanos]; omega
    refine ⟨.seconds, .of_le (.inr ?_) (.inl rfl), ?_⟩
    · show 1000000000 ≤ d.toNanos
      omega
    · rw [text, if_pos hsecs, ← hwhole, ← hpart]
      exact Amount.measure_eq_text .seconds d.toNanos
  · have hless : d.toNanos = d.nanos := by rw [toNanos]; omega
    rw [text, if_neg hsecs, hless]
    by_cases hmillis : 1000000 ≤ d.nanos
    · rw [if_pos hmillis]
      exact ⟨.milliseconds, .of_le (.inr hmillis) (.inr hnanos),
        Amount.measure_eq_text .milliseconds d.nanos⟩
    · rw [if_neg hmillis]
      by_cases hmicros : 1000 ≤ d.nanos
      · rw [if_pos hmicros]
        exact ⟨.microseconds, .of_le (.inr hmicros) (.inr (Nat.lt_of_not_le hmillis)),
          Amount.measure_eq_text .microseconds d.nanos⟩
      · rw [if_neg hmicros]
        refine ⟨.nanoseconds, .of_le (.inl rfl) (.inr (Nat.lt_of_not_le hmicros)), ?_⟩
        rw [← Amount.measure_eq_text]
        show measure d.nanos 0 0 "ns" = measure (d.nanos / 1) (d.nanos % 1) 0 "ns"
        rw [Nat.div_one, Nat.mod_one]

/-- **The text of a duration is the amount that writes it.** -/
theorem exists_amount (d : Duration) : ∃ a : Amount, a.Writes d ∧ d.text = a.text := by
  obtain ⟨u, hsuits, htext⟩ := d.exists_unit
  exact ⟨_, Amount.writes_ofNanos hsuits, htext⟩

/-- **Durations with the same text are the same**, whatever their units are. -/
theorem text_inj {d d' : Duration} (h : d.text = d'.text) : d = d' := by
  obtain ⟨a, hwrites, htext⟩ := d.exists_amount
  obtain ⟨a', hwrites', htext'⟩ := d'.exists_amount
  -- The text is read back as the amount, which is exact.
  have hread : some a = some a' := by
    rw [← hwrites.read?_text, ← hwrites'.read?_text, ← htext, ← htext', h]
  apply toNanos_inj
  rw [← hwrites.exact, ← hwrites'.exact, Option.some.inj hread]

end Duration

end ZoneAccess

import ZoneAccess.Proofs.Directive.Quoting

namespace ZoneAccess.Atom

/-!
# Quoted atoms delimit themselves

What the engine's reader accepts, said without the reader, and what it makes of quoted texts.

* `Spells` — the ways to write an atom between its quotes, of which there are many, since any
  character can be given by its number;
* `Opens` — some characters are an atom between quotes and what follows it, which does not go on
  with the atom;
* `read_eq_some_iff` — the reader accepts nothing else, and all of it;
* `quote_self_delimiting` — so the reader takes a quoted text off the front of anything that does
  not begin with a quote, and no two texts are quoted alike.
-/

/-! ### The rules of writing -/

/-- How the characters of an atom are written between its quotes: a quote or a backslash twice, any
    character as its number in hexadecimal between `\x` and `\`, and all but quotes and backslashes
    as themselves. The first list is what is written. -/
inductive Spells : List Char → List Char → Prop
  | nil : Spells [] []
  | quote {body atom : List Char} :
      Spells body atom → Spells (delimiter :: delimiter :: body) (delimiter :: atom)
  | backslash {body atom : List Char} :
      Spells body atom → Spells (escape :: escape :: body) (escape :: atom)
  | number {digits body atom : List Char} {n : Nat} :
      digits ≠ [] → Text.hexNumber? 0 digits = some n → n.isValidChar → Spells body atom →
        Spells (escape :: 'x' :: (digits ++ escape :: body)) (Char.ofNat n :: atom)
  | plain {c : Char} {body atom : List Char} :
      c ≠ delimiter → c ≠ escape → Spells body atom → Spells (c :: body) (c :: atom)

/-- Some characters are the rest of an atom that is being read, its closing quote, and then `rest`.
    Another quote there would belong to the atom. -/
def Closes (cs atom rest : List Char) : Prop :=
  ∃ body, Spells body atom ∧ cs = body ++ delimiter :: rest ∧ rest.head? ≠ some delimiter

/-- Some characters are an atom between quotes, and then `rest`. -/
def Opens (cs atom rest : List Char) : Prop :=
  ∃ inner, cs = delimiter :: inner ∧ Closes inner atom rest

/-- A further character of an atom, in one of the ways to write it. -/
theorem Closes.cons {cs atom rest : List Char} (front : List Char) {c : Char}
    (hc : ∀ {body atom}, Spells body atom → Spells (front ++ body) (c :: atom))
    (h : Closes cs atom rest) : Closes (front ++ cs) (c :: atom) rest := by
  obtain ⟨body, hbody, hcs, hrest⟩ := h
  exact ⟨front ++ body, hc hbody, by rw [hcs, List.append_assoc], hrest⟩

/-! ### All that is written is read -/

/-- Digits are read up to the number that they spell behind those before them. -/
theorem readFrom_hexNumber? {digits : List Char} (hdigits : digits ≠ []) (value : Option Nat)
    {n : Nat} (h : Text.hexNumber? (value.getD 0) digits = some n) (rest : List Char) :
    readFrom (.hex value) (digits ++ rest) = readFrom (.hex (some n)) rest := by
  induction digits generalizing value with
  | nil => exact absurd rfl hdigits
  | cons c digits ih =>
    obtain ⟨d, hd, hnumber⟩ := Option.bind_eq_some_iff.mp h
    have hc : c ≠ escape := by
      rintro rfl
      cases hd
    -- A digit is no backslash, so the number is not at its end yet.
    have hstep : readFrom (.hex value) (c :: digits ++ rest)
        = readFrom (.hex (some (value.getD 0 * 16 + d))) (digits ++ rest) := by
      simp only [List.cons_append, readFrom, if_neg hc, hd]
    rw [hstep]
    by_cases hlast : digits = []
    · subst hlast
      rw [Option.some.inj hnumber]
      rfl
    · exact ih hlast (some _) hnumber

/-- Whatever way an atom is written, it is read as the atom. -/
theorem readFrom_of_spells {body atom rest : List Char} (h : Spells body atom)
    (hrest : rest.head? ≠ some delimiter) :
    readFrom .plain (body ++ delimiter :: rest) = some (atom, rest) := by
  have hne : escape ≠ delimiter := by decide
  -- On the way the atom is written: each way leads the reader back among plain characters.
  induction h with
  | nil =>
    rw [List.nil_append, readFrom, if_pos rfl]
    cases rest with
    | nil => rfl
    | cons c rest =>
      have hc : c ≠ delimiter := by simpa using hrest
      rw [readFrom, if_neg hc]
  | quote _ ih =>
    rw [List.cons_append, List.cons_append, readFrom, if_pos rfl, readFrom, if_pos rfl, ih]
    rfl
  | backslash _ ih =>
    rw [List.cons_append, List.cons_append, readFrom, if_neg hne, if_pos rfl, readFrom, if_pos rfl,
      ih]
    rfl
  | number hdigits hn hvalid _ ih =>
    rw [List.cons_append, List.cons_append, List.append_assoc, List.cons_append, readFrom,
      if_neg hne, if_pos rfl, readFrom, if_neg (by decide), if_pos rfl,
      readFrom_hexNumber? hdigits none hn, readFrom, if_pos rfl]
    simp only [if_pos hvalid, ih]
    rfl
  | plain hd he _ ih =>
    rw [List.cons_append, readFrom, if_neg hd, if_neg he, ih]
    rfl

/-! ### Nothing else is read -/

/-- The characters that lead the reader from plain characters to where it stands. -/
inductive Leads : List Char → Mode → Prop
  | plain : Leads [] .plain
  | quote : Leads [delimiter] .quote
  | escape : Leads [Atom.escape] .escape
  | opened : Leads [Atom.escape, 'x'] (.hex none)
  | digits {digits : List Char} {n : Nat} :
      digits ≠ [] → Text.hexNumber? 0 digits = some n →
        Leads (Atom.escape :: 'x' :: digits) (.hex (some n))

/-- What digits spell, and then one more. -/
theorem hexNumber?_concat {digits : List Char} {value n d : Nat} {c : Char}
    (h : Text.hexNumber? value digits = some n) (hd : Text.hexValue? c = some d) :
    Text.hexNumber? value (digits ++ [c]) = some (n * 16 + d) := by
  induction digits generalizing value with
  | nil =>
    rw [List.nil_append, Text.hexNumber?, hd, Option.some.inj h]
    rfl
  | cons b digits ih =>
    obtain ⟨v, hv, hnumber⟩ := Option.bind_eq_some_iff.mp h
    rw [List.cons_append, Text.hexNumber?, hv]
    exact ih hnumber

/-- One more digit leads on. -/
theorem Leads.digit {front : List Char} {value : Option Nat} {c : Char} {d : Nat}
    (h : Leads front (.hex value)) (hd : Text.hexValue? c = some d) :
    Leads (front ++ [c]) (.hex (some (value.getD 0 * 16 + d))) := by
  cases h with
  | opened => exact .digits (List.cons_ne_nil c []) (by simp [Text.hexNumber?, hd])
  | digits hdigits hn => exact .digits (by simp) (hexNumber?_concat hn hd)

/-- What is read inside an atom is the rest of an atom that begins with the characters that led
    there. -/
theorem closes_of_readFrom {mode : Mode} {cs front atom rest : List Char}
    (hfront : Leads front mode) (h : readFrom mode cs = some (atom, rest)) :
    Closes (front ++ cs) atom rest := by
  -- A step moves a character to the front, or finishes one of the atom: then the reader is among
  -- plain characters again, to which nothing leads.
  fun_induction readFrom mode cs generalizing front atom with
  | case1 =>
    obtain ⟨rfl, rfl⟩ := Prod.mk.inj (Option.some.inj h)
    cases hfront
    exact ⟨[], .nil, rfl, by simp⟩
  | case3 cs ih =>
    cases hfront
    exact ih .quote h
  | case4 cs _ ih =>
    cases hfront
    exact ih .escape h
  | case5 c cs hd he ih =>
    cases hfront
    obtain ⟨atom, hread, rfl⟩ := exists_of_push_eq_some h
    exact (ih .plain hread).cons [c] (.plain hd he)
  | case6 cs ih =>
    cases hfront
    obtain ⟨atom, hread, rfl⟩ := exists_of_push_eq_some h
    exact (ih .plain hread).cons [delimiter, delimiter] .quote
  | case7 c cs hc =>
    obtain ⟨rfl, rfl⟩ := Prod.mk.inj (Option.some.inj h)
    cases hfront
    exact ⟨[], .nil, rfl, by simpa using hc⟩
  | case8 cs ih =>
    cases hfront
    obtain ⟨atom, hread, rfl⟩ := exists_of_push_eq_some h
    exact (ih .plain hread).cons [escape, escape] .backslash
  | case9 cs _ ih =>
    cases hfront
    exact ih .opened h
  | case11 cs n hvalid ih =>
    cases hfront with
    | @digits digits _ hdigits hn =>
      obtain ⟨atom, hread, rfl⟩ := exists_of_push_eq_some h
      have hnumber := (ih .plain hread).cons (escape :: 'x' :: (digits ++ [escape]))
        fun hbody => by simpa using Spells.number hdigits hn hvalid hbody
      simpa using hnumber
  | case14 value c cs _ d hd ih =>
    have hnext := ih (hfront.digit hd) h
    rwa [List.append_assoc] at hnext
  | case2 | case10 | case12 | case13 | case15 => cases h

/-! ### Quoted atoms -/

/-- **What the reader accepts**: a quoted atom, written in any of the ways, and behind its closing
    quote anything but another quote. -/
theorem read_eq_some_iff {cs atom rest : List Char} :
    read cs = some (atom, rest) ↔ Opens cs atom rest := by
  constructor
  · intro h
    cases cs with
    | nil => cases h
    | cons c cs =>
      rw [read] at h
      -- Without a quote at the front nothing is read.
      split at h
      · next hc => exact ⟨cs, by rw [hc], closes_of_readFrom .plain h⟩
      · cases h
  · rintro ⟨inner, rfl, body, hbody, rfl, hrest⟩
    rw [read, if_pos rfl]
    exact readFrom_of_spells hbody hrest

/-- The text that was quoted is read from a quoted text. -/
theorem read_quote (text rest : String) (h : rest.toList.head? ≠ some delimiter) :
    read (quote text ++ rest).toList = some (text.toList, rest.toList) := by
  rw [String.toList_append, quote, String.toList_ofList]
  exact read_quoteChars text.toList rest.toList h

/-- **Quoted atoms are lossless and delimit themselves.** The reader accepts exactly the atoms
    between quotes, written by the rules, that no further quote follows. With it:
    * a quoted text in front of anything that does not begin with a quote is read as the text, and
      what follows is left as it is;
    * texts that are quoted alike are the same;
    * no quoted text has a control character. -/
theorem quote_self_delimiting :
    (∀ cs atom rest, read cs = some (atom, rest) ↔ Opens cs atom rest) ∧
    (∀ text rest : String, rest.toList.head? ≠ some delimiter →
      read (quote text ++ rest).toList = some (text.toList, rest.toList)) ∧
    Function.Injective quote ∧
    ∀ text : String, ∀ c ∈ (quote text).toList, Text.isControl c = false := by
  refine ⟨fun _ _ _ => read_eq_some_iff, read_quote, ?_, ?_⟩
  · intro text text' h
    -- Reading one quoted text in two ways gives both texts.
    have hread := read_quote text "" (by decide)
    rw [h, read_quote text' "" (by decide)] at hread
    have hchars : text'.toList = text.toList := (Prod.mk.inj (Option.some.inj hread)).1
    exact String.toList_inj.mp hchars.symm
  · intro text c hc
    rw [quote, String.toList_ofList] at hc
    exact noControl_quoteChars text.toList c hc

/-- A text with a quote behind a backslash, with what looks like an escape, and with a control
    character in front of a hexadecimal digit; another atom follows it. -/
theorem quote_self_delimiting_hostile :
    ",'b'".toList.head? ≠ some delimiter ∧
    quote "\\'\\x41\\\u0007a" = "'\\\\''\\\\x41\\\\\\x7\\a'" ∧
    read "'\\\\''\\\\x41\\\\\\x7\\a','b'".toList
      = some ("\\'\\x41\\\u0007a".toList, ",'b'".toList) := by
  have hrest : ",'b'".toList.head? ≠ some delimiter := by decide
  have hquote : quote "\\'\\x41\\\u0007a" = "'\\\\''\\\\x41\\\\\\x7\\a'" := by decide
  have hread := quote_self_delimiting.2.1 "\\'\\x41\\\u0007a" ",'b'" hrest
  rw [hquote] at hread
  exact ⟨hrest, hquote, hread⟩

end ZoneAccess.Atom

import ZoneAccess.Outcome
import ZoneAccess.Text.Digit

namespace ZoneAccess.Json

/-!
# A reader of records

JSON objects whose members are strings, read character by character: blanks between the parts, any
number of members, and in strings all the ways in which a character can be written.

* `Mode` — where the reader is inside a string, and `Mode.next` what the next character does there;
* `Place`, `State.next` — the same for an object, with the members that have been read;
* `read` — the members of the object that a text is, each with its name, in order;
* `readFrom_jsonString` — a string that was written is read back, whatever is in it.

The reader looks at its input only, and knows escapes that are never written: `\/`, and characters
outside the Basic Multilingual Plane as two numbers.
-/

/-! ### Strings -/

/-- What a character stands for behind a backslash. -/
def escaped? (c : Char) : Option Char :=
  if c = '\"' || c = '\\' || c = '/' then some c
  else if c = 'b' then some (Char.ofNat 8)
  else if c = 't' then some (Char.ofNat 9)
  else if c = 'n' then some (Char.ofNat 10)
  else if c = 'f' then some (Char.ofNat 12)
  else if c = 'r' then some (Char.ofNat 13)
  else none

/-- Where the reader is inside a string. A number has four digits, of which `more` are to come
    behind those that have come to `value`. Half a character that was read before it is `high`. -/
inductive Mode
  | plain
  | escape
  | number (high : Option Nat) (more value : Nat)
  | half (high : Nat)
  | halfEscape (high : Nat)
  deriving DecidableEq

/-- What a number stands for: a character, or half of one, the other half of which has to follow. -/
def Mode.ofNumber (high : Option Nat) (n : Nat) : Option (Mode × List Char) :=
  match high with
  | some high =>
    if 0xDC00 ≤ n && n < 0xE000 then
      some (.plain, [Char.ofNat (0x10000 + (high - 0xD800) * 0x400 + (n - 0xDC00))])
    else none
  | none =>
    if 0xD800 ≤ n && n < 0xDC00 then some (.half n, [])
    else if 0xDC00 ≤ n && n < 0xE000 then none
    else some (.plain, [Char.ofNat n])

/-- What the next character does inside a string: how the reader goes on, and the character that it
    has read, if one is complete. -/
def Mode.next : Mode → Char → Option (Mode × List Char)
  | .plain, c =>
    if c = '\\' then some (.escape, [])
    else if c.toNat < 0x20 then none
    else some (.plain, [c])
  | .escape, c =>
    if c = 'u' then some (.number none 4 0, [])
    else (escaped? c).map fun c => (.plain, [c])
  | .number high more value, c =>
    (Text.hexValue? c).bind fun d =>
      if more = 1 then ofNumber high (value * 16 + d)
      else some (.number high (more - 1) (value * 16 + d), [])
  | .half high, c => if c = '\\' then some (.halfEscape high, []) else none
  | .halfEscape high, c => if c = 'u' then some (.number (some high) 4 0, []) else none

/-! ### Objects -/

/-- Where the reader is: in front of an object, behind its brace, behind a comma, behind a name, in
    front of its value, inside a string that is a name or the value of one, behind a member, or
    behind the object. -/
inductive Place
  | front
  | opened
  | more
  | named (name : List Char)
  | value (name : List Char)
  | inside (name : Option (List Char)) (mode : Mode) (text : List Char)
  | behind
  | closed

/-- How far the reader is: the members that it has read, and where it is. -/
structure State where
  members : List (String × String)
  place : Place

/-- Whether a character may stand anywhere between the parts of an object. -/
def isSpace (c : Char) : Bool := c = ' ' || c = '\t' || c = '\n' || c = '\r'

/-- Where a character leads that belongs to the object itself. -/
def Place.next? : Place → Char → Option Place
  | .front, c => if c = '\x7b' then some .opened else none
  | .opened, c =>
    if c = '\"' then some (.inside none .plain []) else if c = '\x7d' then some .closed else none
  | .more, c => if c = '\"' then some (.inside none .plain []) else none
  | .named name, c => if c = ':' then some (.value name) else none
  | .value name, c => if c = '\"' then some (.inside (some name) .plain []) else none
  | .behind, c => if c = ',' then some .more else if c = '\x7d' then some .closed else none
  | _, _ => none

/-- What the next character does. -/
def State.next (s : State) (c : Char) : Option State :=
  match s.place with
  | .inside name mode text =>
    if mode = .plain ∧ c = '\"' then
      match name with
      | none => some ⟨s.members, .named text⟩
      | some name =>
        some ⟨s.members ++ [(String.ofList name, String.ofList text)], .behind⟩
    else (mode.next c).map fun (mode, read) => ⟨s.members, .inside name mode (text ++ read)⟩
  | place => if isSpace c then some s else (place.next? c).map fun place => ⟨s.members, place⟩

/-- How far the reader comes from a state with some characters. -/
def readFrom (s : State) (cs : List Char) : Option State := cs.foldlM State.next s

/-- The members of the object that a text is. -/
def read (text : String) : Option (List (String × String)) :=
  (readFrom ⟨[], .front⟩ text.toList).bind fun s => match s.place with
    | .closed => some s.members
    | _ => none

/-! ### Reading back -/

/-- To read a text is to read its first character, and the rest from the state behind it. -/
theorem readFrom_cons (s : State) (c : Char) (cs : List Char) :
    readFrom s (c :: cs) = (s.next c).bind fun s => readFrom s cs := rfl

/-- A text is read piece by piece. -/
theorem readFrom_append {s s' : State} {cs : List Char} (h : readFrom s cs = some s')
    (rest : List Char) : readFrom s (cs ++ rest) = readFrom s' rest := by
  rw [readFrom, List.foldlM_append]
  show (readFrom s cs).bind _ = _
  rw [h]
  rfl

section Strings

variable (members : List (String × String)) (name : Option (List Char)) (text : List Char)

/-- A character that is no mark inside a string goes on with it. -/
theorem next_inside {mode mode' : Mode} {c : Char} {read : List Char}
    (hmark : ¬ (mode = .plain ∧ c = '\"')) (h : mode.next c = some (mode', read)) :
    State.next ⟨members, .inside name mode text⟩ c
      = some ⟨members, .inside name mode' (text ++ read)⟩ := by
  rw [State.next]
  dsimp only
  rw [if_neg hmark, h]
  rfl

/-- A short escape is read as the character that it stands for. -/
theorem readFrom_escaped {e c : Char} (hu : e ≠ 'u') (h : escaped? e = some c) :
    readFrom ⟨members, .inside name .plain text⟩ ['\\', e]
      = some ⟨members, .inside name .plain (text ++ [c])⟩ := by
  have hnext : Mode.escape.next e = some (.plain, [c]) := by
    rw [Mode.next, if_neg hu, h]
    rfl
  rw [readFrom_cons, next_inside members name text (by decide) rfl, List.append_nil,
    Option.bind_some, readFrom_cons, next_inside members name text (by simp) hnext]
  rfl

/-- A digit of a number that is not its last. -/
theorem next_digitChar {more value d : Nat} (hd : d < 16) (hmore : more ≠ 1) :
    State.next ⟨members, .inside name (.number none more value) text⟩ (Nat.digitChar d)
      = some ⟨members, .inside name (.number none (more - 1) (value * 16 + d)) text⟩ := by
  have hnext : (Mode.number none more value).next (Nat.digitChar d)
      = some (.number none (more - 1) (value * 16 + d), []) := by
    rw [Mode.next, Text.hexValue?_digitChar d hd, Option.bind_some, if_neg hmore]
  rw [next_inside members name text (by simp) hnext, List.append_nil]

/-- The last digit of a number that is a character by itself. -/
theorem next_last_digitChar {value d : Nat} (hd : d < 16) (hn : value * 16 + d < 0xD800) :
    State.next ⟨members, .inside name (.number none 1 value) text⟩ (Nat.digitChar d)
      = some ⟨members, .inside name .plain (text ++ [Char.ofNat (value * 16 + d)])⟩ := by
  have hnext : (Mode.number none 1 value).next (Nat.digitChar d)
      = some (.plain, [Char.ofNat (value * 16 + d)]) := by
    rw [Mode.next, Text.hexValue?_digitChar d hd, Option.bind_some, if_pos rfl, Mode.ofNumber,
      if_neg (by simp; omega), if_neg (by simp; omega)]
  exact next_inside members name text (by simp) hnext

/-- A character that is written by a number below 256 is read back. -/
theorem readFrom_number {c : Char} (h : c.toNat < 256) :
    readFrom ⟨members, .inside name .plain text⟩
        ['\\', 'u', '0', '0', Nat.digitChar (c.toNat / 16), Nat.digitChar (c.toNat % 16)]
      = some ⟨members, .inside name .plain (text ++ [c])⟩ := by
  have hopen : readFrom ⟨members, .inside name .plain text⟩ ['\\', 'u']
      = some ⟨members, .inside name (.number none 4 0) text⟩ := by
    rw [readFrom_cons, next_inside members name text (by decide) rfl, List.append_nil,
      Option.bind_some, readFrom_cons, next_inside members name text (by simp) rfl,
      List.append_nil]
    rfl
  have hzero : '0' = Nat.digitChar 0 := rfl
  have hvalue : ((0 * 16 + 0) * 16 + 0) * 16 + c.toNat / 16 = c.toNat / 16 := by omega
  have hchar : Char.ofNat (c.toNat / 16 * 16 + c.toNat % 16) = c := by
    rw [show c.toNat / 16 * 16 + c.toNat % 16 = c.toNat by omega, Char.ofNat_toNat]
  -- The zeros leave the value as it is; behind the last digit it is the character.
  show readFrom _ (['\\', 'u'] ++ ['0', '0', Nat.digitChar (c.toNat / 16),
    Nat.digitChar (c.toNat % 16)]) = _
  rw [readFrom_append hopen, hzero, readFrom_cons, next_digitChar _ _ _ (by omega) (by decide),
    Option.bind_some, readFrom_cons, next_digitChar _ _ _ (by omega) (by decide),
    Option.bind_some, readFrom_cons, next_digitChar _ _ _ (by omega) (by decide),
    Option.bind_some, readFrom_cons, hvalue,
    next_last_digitChar _ _ _ (by omega) (by omega), hchar]
  rfl

/-- **A character of a string is read back**, however it is written. -/
theorem readFrom_jsonChar (c : Char) :
    readFrom ⟨members, .inside name .plain text⟩ (Outcome.jsonChar c)
      = some ⟨members, .inside name .plain (text ++ [c])⟩ := by
  have hshort {n : Nat} {e : Char} (hc : c.toNat = n) (hu : e ≠ 'u')
      (he : escaped? e = some (Char.ofNat n)) :
      readFrom ⟨members, .inside name .plain text⟩ ['\\', e]
        = some ⟨members, .inside name .plain (text ++ [c])⟩ := by
    rw [readFrom_escaped members name text hu he, ← hc, Char.ofNat_toNat]
  rw [Outcome.jsonChar]
  split
  · next h => exact hshort (congrArg Char.toNat h) (by decide) rfl
  split
  · next h => exact hshort (congrArg Char.toNat h) (by decide) rfl
  split
  · next h => exact hshort h (by decide) rfl
  split
  · next h => exact hshort h (by decide) rfl
  split
  · next h => exact hshort h (by decide) rfl
  split
  · next h => exact hshort h (by decide) rfl
  split
  · next h => exact hshort h (by decide) rfl
  split
  · next h => exact readFrom_number members name text (by omega)
  · next hquote hbackslash _ _ _ _ _ hcontrol =>
    -- All others stand for themselves.
    have hnext : Mode.plain.next c = some (.plain, [c]) := by
      rw [Mode.next, if_neg hbackslash, if_neg hcontrol]
    rw [readFrom_cons, next_inside members name text (fun h => hquote h.2) hnext]
    rfl

/-- So are the characters of a string one after the other. -/
theorem readFrom_flatMap_jsonChar (cs : List Char) :
    readFrom ⟨members, .inside name .plain text⟩ (cs.flatMap Outcome.jsonChar)
      = some ⟨members, .inside name .plain (text ++ cs)⟩ := by
  induction cs generalizing text with
  | nil =>
    rw [List.append_nil]
    rfl
  | cons c cs ih =>
    rw [List.flatMap_cons, readFrom_append (readFrom_jsonChar members name text c), ih,
      List.append_assoc, List.singleton_append]

end Strings

/-- **A string that was written is read back** as the value of a name. -/
theorem readFrom_jsonString (members : List (String × String)) (name text : List Char) :
    readFrom ⟨members, .value name⟩ (Outcome.jsonString text)
      = some ⟨members ++ [(String.ofList name, String.ofList text)], .behind⟩ := by
  have hopen : readFrom ⟨members, .value name⟩ ['\"']
      = some ⟨members, .inside (some name) .plain []⟩ := rfl
  rw [Outcome.jsonString, List.append_assoc, readFrom_append hopen,
    readFrom_append (readFrom_flatMap_jsonChar members (some name) [] text), List.nil_append]
  rfl

/-- **A record is read back** as the object of a kind and a message. -/
theorem read_record (o : Outcome) :
    read o.record = some [("kind", o.kind.name), ("message", o.message)] := by
  have hkind : readFrom ⟨[], .front⟩ "\x7b\"kind\":".toList
      = some ⟨[], .value "kind".toList⟩ := rfl
  have hmessage (members : List (String × String)) :
      readFrom ⟨members, .behind⟩ ",\"message\":".toList
        = some ⟨members, .value "message".toList⟩ := rfl
  have hclose (members : List (String × String)) :
      readFrom ⟨members, .behind⟩ "\x7d".toList = some ⟨members, .closed⟩ := rfl
  -- Piece by piece: the fixed parts lead to the values, which are strings.
  have hrecord : readFrom ⟨[], .front⟩ o.record.toList
      = some ⟨[("kind", o.kind.name), ("message", o.message)], .closed⟩ := by
    unfold Outcome.record Outcome.recordChars
    simp only [String.toList_ofList, List.append_assoc, readFrom_append hkind,
      readFrom_append (readFrom_jsonString _ _ _), readFrom_append (hmessage _), hclose,
      String.ofList_toList, List.nil_append, List.singleton_append]
  rw [read, hrecord]
  rfl

-- Records are not the only objects that are read.
example : read " \x7b \"kind\" : \"a\\/b\",\n \"message\":\"\\ud83d\\uDE00\" \x7d"
    = some [("kind", "a/b"), ("message", "😀")] := by decide

example : read "\x7b\"kind\":\"a\nb\"\x7d" = none := by decide

end ZoneAccess.Json

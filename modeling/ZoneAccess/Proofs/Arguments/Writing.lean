import ZoneAccess.Arguments.Request
import ZoneAccess.Arguments.Split
import ZoneAccess.Proofs.Text.Utf8

namespace ZoneAccess.Arguments

/-!
# Written command lines

How a command line is put together from what it is to say, and where it is taken apart again.

* `Setting`, `FormatFlag`, `Command` — a setting, the format and the command proper, with the
  choices that there are in writing them;
* `Command.Clear` — a command whose words cannot be taken for flags: either `--` stands in front
  of them, or the first does not begin with a dash;
* `split_written` — written settings are split off, all of them and nothing else.
-/

/-! ### Writing -/

/-- A setting on a command line: a flag with a value, behind an equals sign or as the next
    argument. -/
structure Setting where
  flag : String
  known : flag ∈ settingFlags
  value : Bytes
  attached : Bool

/-- The arguments of a setting. -/
def Setting.written (s : Setting) : List Bytes :=
  if s.attached then [Utf8.encode s.flag ++ equals :: s.value]
  else [Utf8.encode s.flag, s.value]

/-- The name of a format. -/
def formatName : OutputFormat → String
  | .human => "human"
  | .json => "json"

/-- The format on a command line, its name behind an equals sign or as the next argument. -/
structure FormatFlag where
  format : OutputFormat
  attached : Bool

/-- The arguments of the format. -/
def FormatFlag.written (f : FormatFlag) : List Bytes :=
  if f.attached then [Utf8.encode "--format" ++ equals :: Utf8.encode (formatName f.format)]
  else [Utf8.encode "--format", Utf8.encode (formatName f.format)]

/-- A command as it is written: the flags that are given, in one order or the other, and the words
    of the question, perhaps with `--` in front of them. -/
structure Command where
  check : Bool
  format : Option FormatFlag
  checkFirst : Bool
  separated : Bool
  words : List String

namespace Command

/-- The argument of the flag for a setup check, if it is given. -/
def checkWritten (c : Command) : List Bytes := if c.check then [Utf8.encode "--check"] else []

/-- The arguments of the format, if it is given. -/
def formatWritten (c : Command) : List Bytes :=
  match c.format with
  | none => []
  | some f => f.written

/-- The arguments of the words. -/
def wordsWritten (c : Command) : List Bytes :=
  (if c.separated then [Utf8.encode "--"] else []) ++ c.words.map Utf8.encode

/-- The arguments of a command. -/
def written (c : Command) : List Bytes :=
  (if c.checkFirst then c.checkWritten ++ c.formatWritten
    else c.formatWritten ++ c.checkWritten) ++ c.wordsWritten

/-- The words cannot be taken for flags. -/
def Clear (c : Command) : Prop :=
  c.separated = true ∨ ∀ w ∈ c.words.head?, w.toList.head? ≠ some '-'

/-- The request that a command is to make. -/
def request (c : Command) : Request where
  check := c.check
  format := (c.format.map FormatFlag.format).getD .human
  words := c.words

end Command

/-! ### The roles of written arguments -/

/-- There is no equals sign in the flag of a setting. -/
theorem equals_not_mem_of_mem_settingFlags {flag : String} (h : flag ∈ settingFlags) :
    '=' ∉ flag.toList := by
  have hall : ∀ f ∈ settingFlags, '=' ∉ f.toList := by decide
  exact hall flag h

/-- A flag of the settings is found among them letter by letter. -/
theorem any_toList_of_mem {flag : String} (h : flag ∈ settingFlags) :
    settingFlags.any (·.toList == flag.toList) = true :=
  List.any_eq_true.mpr ⟨flag, h, beq_self_eq_true _⟩

section BeforeFirst

universe u
variable {α : Type u} [BEq α] [LawfulBEq α] {a : α} {xs : List α}

/-- The elements of a list differ from one that is not in it, also as a test. -/
theorem bne_of_mem_of_not_mem (h : a ∉ xs) : ∀ x ∈ xs, (x != a) = true := by
  intro x hx
  rw [bne_iff_ne]
  rintro rfl
  exact h hx

/-- What precedes the first of its kind. -/
theorem takeWhile_ne_append (h : a ∉ xs) (ys : List α) :
    (xs ++ a :: ys).takeWhile (· != a) = xs := by
  rw [List.takeWhile_append_of_pos (bne_of_mem_of_not_mem h)]
  simp

/-- Where there is none, everything does. -/
theorem takeWhile_ne_eq_self (h : a ∉ xs) : xs.takeWhile (· != a) = xs := by
  have htake : (xs ++ []).takeWhile (· != a) = xs ++ [].takeWhile (· != a) :=
    List.takeWhile_append_of_pos (bne_of_mem_of_not_mem h)
  rwa [List.append_nil, List.takeWhile_nil, List.append_nil] at htake

end BeforeFirst

/-- The flag of a setting wants the next argument. -/
theorem role_flag {flag : String} (h : flag ∈ settingFlags) :
    role (Utf8.encode flag) = .opening := by
  have hname := equals_not_mem_of_mem_settingFlags h
  have htext : Utf8.decodeCharsLossy (Utf8.encode flag) = flag.toList :=
    Utf8.decodeCharsLossy_encodeChars flag.toList
  unfold role
  simp only [htext, takeWhile_ne_eq_self hname, any_toList_of_mem h]
  simp [hname]

/-- With an equals sign behind it, it is complete, whatever bytes follow. -/
theorem role_flag_append {flag : String} (h : flag ∈ settingFlags) (value : Bytes) :
    role (Utf8.encode flag ++ equals :: value) = .complete := by
  have hname := equals_not_mem_of_mem_settingFlags h
  -- The value may be any bytes, but decoding it leaves what stands in front of it alone.
  have htext : Utf8.decodeCharsLossy (Utf8.encode flag ++ equals :: value)
      = flag.toList ++ '=' :: Utf8.decodeCharsLossy value := by
    have hsign : equals :: value = Utf8.encodeChars ['='] ++ value := rfl
    rw [Utf8.encode, Utf8.decodeCharsLossy_encodeChars_append, hsign,
      Utf8.decodeCharsLossy_encodeChars_append]
    rfl
  unfold role
  simp only [htext, takeWhile_ne_append hname, any_toList_of_mem h]
  simp

/-- A text that does not begin with a dash begins the command. -/
theorem role_word {word : String} (h : word.toList.head? ≠ some '-') :
    role (Utf8.encode word) = .command := by
  -- Every flag begins with a dash, and cutting at an equals sign keeps the head.
  have hdash : ∀ f ∈ settingFlags, f.toList.head? = some '-' := by decide
  have htext : Utf8.decodeCharsLossy (Utf8.encode word) = word.toList :=
    Utf8.decodeCharsLossy_encodeChars word.toList
  have hhead : (word.toList.takeWhile (· != '=')).head? ≠ some '-' := by
    cases hchars : word.toList with
    | nil => simp
    | cons c rest =>
      rw [hchars] at h
      by_cases hc : c = '='
      · simp [hc]
      · simpa [hc] using h
  have hnone : settingFlags.any (·.toList == word.toList.takeWhile (· != '=')) = false := by
    rw [List.any_eq_false]
    intro f hf hname
    rw [← eq_of_beq hname] at hhead
    exact hhead (hdash f hf)
  unfold role
  simp only [htext, hnone]
  rfl

/-- What holds of the heads of two lists holds of the head of both together. -/
theorem forall_head_append {P : Bytes → Prop} {xs ys : List Bytes}
    (hxs : ∀ x ∈ xs.head?, P x) (hys : ∀ y ∈ ys.head?, P y) :
    ∀ x ∈ (xs ++ ys).head?, P x := by
  cases xs with
  | nil => exact hys
  | cons x xs => exact hxs

/-- A clear command begins with an argument that is no setting. -/
theorem Command.role_head {c : Command} (h : c.Clear) :
    ∀ arg ∈ c.written.head?, role arg = .command := by
  have hcheck : ∀ arg ∈ c.checkWritten.head?, role arg = .command := by
    unfold checkWritten
    cases c.check <;> decide
  have hformat : ∀ arg ∈ c.formatWritten.head?, role arg = .command := by
    unfold formatWritten
    cases c.format with
    | none => decide
    | some f =>
      obtain ⟨format, attached⟩ := f
      cases format <;> cases attached <;> decide
  have hwords : ∀ arg ∈ c.wordsWritten.head?, role arg = .command := by
    unfold wordsWritten
    cases hseparated : c.separated with
    | true =>
      intro arg harg
      obtain rfl : Utf8.encode "--" = arg := by simpa using harg
      decide
    | false =>
      have hclear := h.resolve_left (by simp [hseparated])
      cases hlist : c.words with
      | nil => simp
      | cons w ws =>
        intro arg harg
        obtain rfl : Utf8.encode w = arg := by simpa using harg
        exact role_word (hclear w (by rw [hlist]; rfl))
  -- Whichever part is written first, it is no setting; the words only count if nothing precedes
  -- them.
  unfold written
  cases c.checkFirst with
  | true => exact forall_head_append (forall_head_append hcheck hformat) hwords
  | false => exact forall_head_append (forall_head_append hformat hcheck) hwords

/-! ### The split -/

/-- A written setting is split off. -/
theorem leading_written (s : Setting) (rest : List Bytes) :
    leading false (s.written ++ rest) = s.written ++ leading false rest := by
  unfold Setting.written
  cases s.attached with
  | true => simp [leading, role_flag_append s.known]
  | false => simp [leading, role_flag s.known]

/-- So are several, one after the other. -/
theorem leading_flatMap_written (settings : List Setting) (rest : List Bytes) :
    leading false (settings.flatMap Setting.written ++ rest)
      = settings.flatMap Setting.written ++ leading false rest := by
  induction settings with
  | nil => rfl
  | cons s settings ih =>
    rw [List.flatMap_cons, List.append_assoc, leading_written, ih, List.append_assoc]

/-- Where a command begins, nothing is. -/
theorem leading_eq_nil_iff {rest : List Bytes} :
    leading false rest = [] ↔ ∀ arg ∈ rest.head?, role arg = .command := by
  cases rest with
  | nil => simp [leading]
  | cons arg rest => cases hrole : role arg <;> simp [leading, hrole]

section Split

variable (program : Bytes) {front rest : List Bytes}

/-- The split of arguments, from what is split off at the front of them. -/
theorem split_of_leading (h : leading false (front ++ rest) = front) :
    split (program :: (front ++ rest)) = ⟨program :: front, front.length + 1⟩ := by
  unfold split
  simp only [h]

/-- What is left is the rest. -/
theorem commandArguments_of_leading (h : leading false (front ++ rest) = front) :
    commandArguments (program :: (front ++ rest)) = program :: rest := by
  unfold commandArguments
  rw [split_of_leading program h]
  simp

variable (settings : List Setting)

/-- Written settings are split off, all of them and nothing else. -/
theorem split_written (hrest : ∀ arg ∈ rest.head?, role arg = .command) :
    split (program :: (settings.flatMap Setting.written ++ rest))
      = ⟨program :: settings.flatMap Setting.written,
          (settings.flatMap Setting.written).length + 1⟩ := by
  refine split_of_leading program ?_
  rw [leading_flatMap_written, leading_eq_nil_iff.mpr hrest, List.append_nil]

/-- What is left is the command as it was written. -/
theorem commandArguments_written (hrest : ∀ arg ∈ rest.head?, role arg = .command) :
    commandArguments (program :: (settings.flatMap Setting.written ++ rest))
      = program :: rest := by
  refine commandArguments_of_leading program ?_
  rw [leading_flatMap_written, leading_eq_nil_iff.mpr hrest, List.append_nil]

end Split

end ZoneAccess.Arguments

import ZoneAccess.Program
import ZoneAccess.Proofs.Arguments.Writing

namespace ZoneAccess.Arguments

/-!
# Reading what was written

A written command is read as the request it was written for, with the settings it was written
with.

* `Ready` — flags that are finished, so that anything may follow;
* `Gives` — arguments that add finished flags to finished ones, whatever follows them;
* `reads_format` — a format does, behind an equals sign or as the next argument;
* `finishes_words` — the words behind the flags are taken as they are;
* **`prepare_commandLine`** — so a command line says what it was put together from.
-/

open Request (grammar)

/-! ### Flags -/

/-- The flags read so far are finished, with the given values, and the next argument is not taken
    for a value. -/
structure Ready (p : FlagProgress) (values : List (String × Bytes)) : Prop where
  settle : p.settle = .ok values
  wantsValue : p.wantsValue = false

/-- Arguments add entries to finished flags that have none of the same name, and reading goes on
    with what follows them. -/
def Gives (args : List Bytes) (entries : List (String × Bytes)) : Prop :=
  ∀ p values, Ready p values →
    (∀ entry ∈ entries, values.any (·.1 == entry.1) = false) →
    ∃ q, Ready q (values ++ entries) ∧
      ∀ rest, grammar.readFrom p (args ++ rest) = grammar.readFrom q rest

/-- Nothing written gives nothing. -/
theorem gives_nil : Gives [] [] := by
  intro p values hready _
  refine ⟨p, ?_, fun rest => rfl⟩
  rwa [List.append_nil]

/-- Arguments behind one another add their entries, if their names differ. -/
theorem Gives.append {args args' : List Bytes} {entries entries' : List (String × Bytes)}
    (h : Gives args entries) (h' : Gives args' entries')
    (hnames : ∀ entry ∈ entries', entries.any (·.1 == entry.1) = false) :
    Gives (args ++ args') (entries ++ entries') := by
  intro p values hready hfresh
  obtain ⟨q, hq, hread⟩ := h p values hready
    fun entry hentry => hfresh entry (List.mem_append_left entries' hentry)
  have hfresh' : ∀ entry ∈ entries', (values ++ entries).any (·.1 == entry.1) = false := by
    intro entry hentry
    rw [List.any_append, hfresh entry (List.mem_append_right entries hentry),
      hnames entry hentry]
    rfl
  -- The second names have to be new behind the first ones too, which is where they must differ.
  obtain ⟨r, hr, hread'⟩ := h' q (values ++ entries) hq hfresh'
  refine ⟨r, ?_, ?_⟩
  · rwa [← List.append_assoc]
  · intro rest
    rw [List.append_assoc, hread, hread']

/-- The flag for a setup check. -/
def checkFlag : Flag := ⟨"check", none, .nothing⟩

/-- The flag for a format. -/
def formatFlag : Flag :=
  ⟨"format", none, .value fun v =>
    if (Request.format? v).isSome then .ok () else .error .invalidValue⟩

/-- The name of a format is a format. -/
theorem format?_formatName (f : OutputFormat) :
    Request.format? (Utf8.encode (formatName f)) = some f := by
  cases f <;> decide

/-- A long flag that is finished at once adds its entry. -/
theorem Gives.of_long {arg name value' : Bytes} {value : Option Bytes} {f : Flag}
    (hform : argumentForm arg = .long name value)
    (hlong : ∀ p, grammar.readLong p name value = p.settleThen f value)
    (hfinish : ∀ values, values.any (·.1 == f.name) = false →
      f.finish value values = .ok (values ++ [(f.name, value')])) :
    Gives [arg] [(f.name, value')] := by
  intro p values hready hfresh
  have hnew : values.any (·.1 == f.name) = false := hfresh (f.name, value') (by simp)
  have hthen : p.settleThen f value = .ok ⟨values ++ [(f.name, value')], none⟩ := by
    unfold FlagProgress.settleThen
    -- Nothing waits for a value, so this flag is finished on top of what was read.
    rw [hready.settle]
    show (f.finish value values).bind _ = _
    rw [hfinish values hnew]
    rfl
  refine ⟨⟨values ++ [(f.name, value')], none⟩, ⟨rfl, rfl⟩, ?_⟩
  intro rest
  rw [List.singleton_append, Grammar.readFrom, hform]
  simp only [hlong, hthen]

/-- The flag for a setup check adds itself. -/
theorem gives_check : Gives [Utf8.encode "--check"] [("check", [])] := by
  have hform : argumentForm (Utf8.encode "--check") = .long (Utf8.encode "check") none := rfl
  refine Gives.of_long (f := checkFlag) hform (fun p => rfl) ?_
  intro values hnew
  have hgiven : (values.any (·.1 == "check")) = false := hnew
  simp [Flag.finish, checkFlag, hgiven]

/-- A format that is written by its name is taken, if none was before. -/
theorem finish_format (f : OutputFormat) {values : List (String × Bytes)}
    (hnew : values.any (·.1 == "format") = false) :
    formatFlag.finish (some (Utf8.encode (formatName f))) values
      = .ok (values ++ [("format", Utf8.encode (formatName f))]) := by
  unfold Flag.finish formatFlag
  simp [hnew, format?_formatName]

/-- A format adds its name, behind an equals sign or as the next argument. -/
theorem gives_format (f : FormatFlag) :
    Gives f.written [("format", Utf8.encode (formatName f.format))] := by
  obtain ⟨format, attached⟩ := f
  cases attached with
  | true =>
    have hform : argumentForm
        (Utf8.encode "--format" ++ equals :: Utf8.encode (formatName format))
        = .long (Utf8.encode "format") (some (Utf8.encode (formatName format))) := by
      cases format <;> rfl
    exact Gives.of_long (f := formatFlag) hform (fun p => rfl) fun values => finish_format format
  | false =>
    have hform : argumentForm (Utf8.encode "--format") = .long (Utf8.encode "format") none := rfl
    have hplain : argumentForm (Utf8.encode (formatName format)) = .plain := by
      cases format <;> rfl
    intro p values hready hfresh
    -- The name waits behind its flag until what follows is known.
    refine ⟨⟨values, some (formatFlag, some (Utf8.encode (formatName format)))⟩, ⟨?_, rfl⟩, ?_⟩
    · have hnew : values.any (·.1 == "format") = false :=
        hfresh ("format", Utf8.encode (formatName format)) (by simp)
      exact finish_format format hnew
    · intro rest
      have hlong : grammar.readLong p (Utf8.encode "format") none
          = .ok ⟨values, some (formatFlag, none)⟩ := by
        show p.settleAwait formatFlag = _
        unfold FlagProgress.settleAwait
        rw [hready.settle]
        rfl
      show grammar.readFrom p
        (Utf8.encode "--format" :: Utf8.encode (formatName format) :: rest) = _
      rw [Grammar.readFrom, hform]
      simp only [hlong]
      rw [Grammar.readFrom, hplain]
      rfl

/-! ### Words -/

/-- The bytes of a text begin with a dash only if the text does. -/
theorem head_encode_ne_dash {word : String} (h : word.toList.head? ≠ some '-') :
    (Utf8.encode word).head? ≠ some dash := by
  unfold Utf8.encode Utf8.encodeChars
  cases hchars : word.toList with
  | nil => simp
  | cons c cs =>
    rw [hchars] at h
    intro hhead
    have hmem : dash ∈ Utf8.encodeChar c := by
      obtain ⟨b, bs, hbytes⟩ := List.exists_cons_of_ne_nil (Utf8.encodeChar_ne_nil c)
      rw [List.flatMap_cons, hbytes] at hhead
      rw [hbytes]
      exact List.mem_of_mem_head? hhead
    -- A byte below 128 stands for nothing but the character of its number.
    have hnumber : c.toNat = '-'.toNat := Utf8.toNat_of_mem_encodeChar (by decide) hmem
    exact h (congrArg some (Char.toNat_inj.mp hnumber))

/-- An argument that does not begin with a dash is plain. -/
theorem argumentForm_plain {arg : Bytes} (h : arg.head? ≠ some dash) :
    argumentForm arg = .plain := by
  match arg, h with
  | [], _ => rfl
  | [_], _ => rfl
  | a :: b :: rest, h =>
    have hdash : a ≠ dash := fun ha => h (congrArg some ha)
    simp [argumentForm, hdash]

/-- Words behind finished flags are taken as they are. -/
theorem finish_words {p : FlagProgress} {values : List (String × Bytes)} (h : Ready p values)
    (words : List String) :
    grammar.finish p (words.map Utf8.encode) = .ok ⟨values, words.map Utf8.encode⟩ := by
  have htext : (words.map Utf8.encode).all (fun w => (Utf8.decode? w).isSome) = true := by
    simp
  unfold Grammar.finish
  rw [h.settle]
  simp [htext, grammar]

/-! ### Commands -/

namespace Command

variable {c : Command}

/-- The entry of the flag for a setup check. -/
def checkEntries (c : Command) : List (String × Bytes) :=
  if c.check then [("check", [])] else []

/-- The entry of the format. -/
def formatEntries (c : Command) : List (String × Bytes) :=
  match c.format with
  | none => []
  | some f => [("format", Utf8.encode (formatName f.format))]

/-- The entries of a command, in the order in which they are written. -/
def entries (c : Command) : List (String × Bytes) :=
  if c.checkFirst then c.checkEntries ++ c.formatEntries
  else c.formatEntries ++ c.checkEntries

/-- The flag for a check gives its entry if it is written, and nothing otherwise. -/
theorem gives_checkWritten : Gives c.checkWritten c.checkEntries := by
  unfold checkWritten checkEntries
  cases c.check with
  | true => exact gives_check
  | false => exact gives_nil

/-- So does the flag for the format, with the value behind it. -/
theorem gives_formatWritten : Gives c.formatWritten c.formatEntries := by
  unfold formatWritten formatEntries
  cases c.format with
  | none => exact gives_nil
  | some f => exact gives_format f

/-- The entries that a check is written as are named for the check. -/
theorem eq_check_of_mem_checkEntries {entry : String × Bytes} (h : entry ∈ c.checkEntries) :
    entry.1 = "check" := by
  unfold checkEntries at h
  split at h
  · rw [List.mem_singleton.mp h]
  · simp at h

/-- The entries that a format is written as are named for the format. -/
theorem eq_format_of_mem_formatEntries {entry : String × Bytes} (h : entry ∈ c.formatEntries) :
    entry.1 = "format" := by
  unfold formatEntries at h
  split at h
  · simp at h
  · rw [List.mem_singleton.mp h]

/-- The flags of a command add its entries, in either order. -/
theorem gives_flags :
    Gives (if c.checkFirst then c.checkWritten ++ c.formatWritten
      else c.formatWritten ++ c.checkWritten) c.entries := by
  have hnames : ∀ entry ∈ c.checkEntries, ∀ entry' ∈ c.formatEntries, entry.1 ≠ entry'.1 := by
    intro entry hentry entry' hentry'
    rw [eq_check_of_mem_checkEntries hentry, eq_format_of_mem_formatEntries hentry']
    decide
  unfold entries
  -- The grammar does not care which comes first; only the names must not repeat each other.
  cases c.checkFirst with
  | true =>
    refine gives_checkWritten.append gives_formatWritten ?_
    intro entry' hentry'
    rw [List.any_eq_false]
    intro entry hentry heq
    exact hnames entry hentry entry' hentry' (eq_of_beq heq)
  | false =>
    refine gives_formatWritten.append gives_checkWritten ?_
    intro entry hentry
    rw [List.any_eq_false]
    intro entry' hentry' heq
    exact hnames entry hentry entry' hentry' (eq_of_beq heq).symm

/-- The words of a clear command end the flags. -/
theorem readFrom_wordsWritten (h : c.Clear) {p : FlagProgress}
    {values : List (String × Bytes)} (hready : Ready p values) :
    grammar.readFrom p c.wordsWritten = .ok ⟨values, c.words.map Utf8.encode⟩ := by
  have hfinish := finish_words hready c.words
  unfold wordsWritten
  -- Either the separator ends the flags, or the first word does, which then must not look like one.
  cases hseparated : c.separated with
  | true =>
    have hform : argumentForm (Utf8.encode "--") = .separator := rfl
    rw [if_pos rfl, List.singleton_append, Grammar.readFrom, hform]
    exact hfinish
  | false =>
    have hclear := h.resolve_left (by simp [hseparated])
    rw [if_neg (by decide), List.nil_append]
    cases hwords : c.words with
    | nil =>
      rw [hwords] at hfinish
      exact hfinish
    | cons w ws =>
      have hdash : w.toList.head? ≠ some '-' := hclear w (by rw [hwords]; rfl)
      have hform := argumentForm_plain (head_encode_ne_dash hdash)
      rw [hwords] at hfinish
      rw [List.map_cons, Grammar.readFrom, hform]
      simp only [hready.wantsValue]
      exact hfinish

/-- A clear command is read as its entries and its words. -/
theorem read_written (h : c.Clear) :
    grammar.read c.written = .ok ⟨c.entries, c.words.map Utf8.encode⟩ := by
  have hstart : Ready ⟨[], none⟩ [] := ⟨rfl, rfl⟩
  obtain ⟨q, hq, hread⟩ := gives_flags (c := c) ⟨[], none⟩ [] hstart fun _ _ => rfl
  unfold Grammar.read written
  rw [hread]
  exact readFrom_wordsWritten h hq

/-- The entries and the words make the request that the command is for. -/
theorem ofGiven_entries :
    Request.ofGiven ⟨c.entries, c.words.map Utf8.encode⟩ = c.request := by
  have hwords : (c.words.map Utf8.encode).map Utf8.decodeLossy = c.words := by
    have hsame : Utf8.decodeLossy ∘ Utf8.encode = id := funext Utf8.decodeLossy_encode
    rw [List.map_map, hsame, List.map_id]
  have hcheck : c.entries.any (·.1 == "check") = c.check := by
    unfold entries checkEntries formatEntries
    cases c.checkFirst <;> cases c.check <;> cases c.format <;> simp
  have hformat : (c.entries.lookup "format").bind Request.format?
      = c.format.map FormatFlag.format := by
    unfold entries checkEntries formatEntries
    cases c.format with
    | none => cases c.checkFirst <;> cases c.check <;> rfl
    | some f =>
      -- Whatever else is given, it has another name.
      cases c.checkFirst <;> cases c.check <;> exact format?_formatName f.format
  unfold Request.ofGiven request GivenFlags.has GivenFlags.value?
  rw [hwords, hcheck, hformat]

/-- So its request is the one that was to be made. -/
theorem parse_written (h : c.Clear) (program : Bytes) :
    Request.parse (program :: c.written) = .ok c.request := by
  unfold Request.parse
  rw [List.drop_one, List.tail_cons, read_written h]
  simp only [ofGiven_entries]

end Command

/-! ### Command lines -/

/-- A whole command line: the program name, settings, and a command. -/
def commandLine (program : Bytes) (settings : List Setting) (c : Command) : List Bytes :=
  program :: (settings.flatMap Setting.written ++ c.written)

/-- **What is read from a command line is what was written on it**: the settings, all of them and
    nothing else, go to where settings are loaded, and the command is read as its request, with
    its words as they are. -/
theorem prepare_commandLine (program : Bytes) (settings : List Setting) (c : Command)
    (h : c.Clear) :
    (split (commandLine program settings c)).settings
        = program :: settings.flatMap Setting.written ∧
      commandArguments (commandLine program settings c) = program :: c.written ∧
      Request.parse (commandArguments (commandLine program settings c)) = .ok c.request ∧
      ∀ around : Surroundings,
        Program.prepare (commandLine program settings c) around
          = match Settings.load (program :: settings.flatMap Setting.written) around with
            | .error faults => .error (.settings faults)
            | .ok loaded => .ok (c.request, loaded) := by
  have hhead := Command.role_head h
  have hsettings : (split (commandLine program settings c)).settings
      = program :: settings.flatMap Setting.written :=
    congrArg Split.settings (split_written program settings hhead)
  have hcommand : commandArguments (commandLine program settings c) = program :: c.written :=
    commandArguments_written program settings hhead
  have hparse := Command.parse_written h program
  -- The command is read first, so that the settings alone can still fail.
  refine ⟨hsettings, hcommand, ?_, ?_⟩
  · rw [hcommand, hparse]
  · intro around
    unfold Program.prepare
    cases hload : Settings.load (program :: settings.flatMap Setting.written) around with
    | error faults => simp only [hcommand, hparse, hsettings, hload]
    | ok loaded => simp only [hcommand, hparse, hsettings, hload]

/-- A value that is no text, one that is spelled like a flag, and words that are. -/
theorem prepare_commandLine_hostile :
    let args : List Bytes := [Utf8.encode "lez",
      Utf8.encode "--log-filter" ++ [equals, 0xFF],
      Utf8.encode "--grammar-path", Utf8.encode "--check",
      Utf8.encode "--format", Utf8.encode "json", Utf8.encode "--check",
      Utf8.encode "can", Utf8.encode "--check", Utf8.encode "--format", Utf8.encode "--",
      Utf8.encode "--grammar-path", Utf8.encode "-h"]
    (split args).settings = args.take 4 ∧
      Request.parse (commandArguments args) = .ok
        ⟨true, .json, ["can", "--check", "--format", "--", "--grammar-path", "-h"]⟩ := by
  have h := prepare_commandLine (Utf8.encode "lez")
    [⟨"--log-filter", by decide, [0xFF], true⟩,
      ⟨"--grammar-path", by decide, Utf8.encode "--check", false⟩]
    { check := true, format := some ⟨.json, false⟩, checkFirst := false, separated := false,
      words := ["can", "--check", "--format", "--", "--grammar-path", "-h"] }
    (.inr (by decide))
  exact ⟨h.1, h.2.2.1⟩

end ZoneAccess.Arguments

import ZoneAccess.Proofs.Arguments.Writing
import ZoneAccess.Proofs.Text.Decoding
import ZoneAccess.Proofs.Text.Lines

namespace ZoneAccess.Arguments

/-!
# Splitting any arguments

`Proofs.Arguments.Writing` starts from settings that were written; this starts from arguments of
whatever bytes.

* `Recognized` — the bytes of an argument that begins a setting, which is all that decides
  (`role_ne_command_iff`);
* `not_recognized_of_invalid` — bytes that are no text in front of the equals sign rule it out;
* `Front` — what can stand in front of a command: settings, and perhaps a flag without its value;
* `Front.written_inj` — the arguments of a front are those of no other;
* `exists_front` — any arguments are a front and what stands behind it;
* `leading_front` — of which the front is split off;
* **`split_exact`** — so nothing is lost, doubled or misplaced, whatever is split, and the two
  results are split as what they are.
-/

/-! ### Recognition -/

/-- An argument is the flag of a setting, or one with an equals sign and any bytes behind it. -/
def Recognized (arg : Bytes) : Prop :=
  ∃ flag ∈ settingFlags,
    arg = Utf8.encode flag ∨ ∃ value, arg = Utf8.encode flag ++ equals :: value

/-- What replaces undecodable bytes is no character of a flag. -/
theorem replacement_not_mem {flag : String} (h : flag ∈ settingFlags) :
    Char.ofNat 0xFFFD ∉ flag.toList := by
  have hall : ∀ f ∈ settingFlags, Char.ofNat 0xFFFD ∉ f.toList := by decide
  exact hall flag h

/-- The byte of an equals sign is none of a flag. -/
theorem equals_not_mem_encode {flag : String} (h : flag ∈ settingFlags) :
    equals ∉ Utf8.encode flag := fun hmem =>
  equals_not_mem_of_mem_settingFlags h ((Utf8.mem_encodeChars_iff (by decide)).mp hmem)

/-- An argument begins a setting if its text has a flag in front of the equals sign. -/
theorem exists_flag_of_role_ne_command {arg : Bytes} (h : role arg ≠ .command) :
    ∃ flag ∈ settingFlags,
      flag.toList = (Utf8.decodeCharsLossy arg).takeWhile (· != '=') := by
  have hknown : settingFlags.any
      (·.toList == (Utf8.decodeCharsLossy arg).takeWhile (· != '=')) = true := by
    -- Were no flag found, the argument would begin the command.
    rw [← Bool.not_eq_false]
    intro hnone
    apply h
    unfold role
    simp only [hnone]
    rfl
  obtain ⟨flag, hflag, hname⟩ := List.any_eq_true.mp hknown
  exact ⟨flag, hflag, eq_of_beq hname⟩

/-- The flag is there byte by byte then, and so is the equals sign. -/
theorem recognized_of_role_ne_command {arg : Bytes} (h : role arg ≠ .command) :
    Recognized arg := by
  obtain ⟨flag, hflag, hname⟩ := exists_flag_of_role_ne_command h
  refine ⟨flag, hflag, ?_⟩
  obtain hclean | ⟨w, s, behind, htext, hclean, hs⟩ :=
    exists_first_separator (· == '=') (Utf8.decodeCharsLossy arg)
  · -- Without an equals sign the whole text is the flag.
    have hsign : '=' ∉ Utf8.decodeCharsLossy arg := fun hmem => by simpa using hclean _ hmem
    rw [takeWhile_ne_eq_self hsign] at hname
    have htext : Utf8.decodeCharsLossy arg = flag.toList ++ [] := by rw [← hname, List.append_nil]
    obtain ⟨rest, rfl, hrest⟩ :=
      (Utf8.decodeCharsLossy_eq_append_iff (replacement_not_mem hflag)).mp htext
    rw [Utf8.eq_nil_of_decodeCharsLossy_eq_nil hrest, List.append_nil]
    exact .inl rfl
  · obtain rfl : s = '=' := eq_of_beq hs
    have hsign : '=' ∉ w := fun hmem => by simpa using hclean _ hmem
    rw [htext, takeWhile_ne_append hsign] at hname
    have htext : Utf8.decodeCharsLossy arg = (flag.toList ++ ['=']) ++ behind := by
      rw [htext, hname, List.append_assoc]
      rfl
    have hkept : Char.ofNat 0xFFFD ∉ flag.toList ++ ['='] := by
      simp [replacement_not_mem hflag]
    -- No byte was replaced up to the sign, so there the text and the bytes agree; behind it they
    -- need not.
    obtain ⟨rest, rfl, -⟩ := (Utf8.decodeCharsLossy_eq_append_iff hkept).mp htext
    have hbytes : Utf8.encodeChars (flag.toList ++ ['=']) = Utf8.encode flag ++ [equals] :=
      List.flatMap_append
    exact .inr ⟨rest, by rw [hbytes, List.append_assoc, List.singleton_append]⟩

/-- **An argument begins a setting exactly if its bytes do.** -/
theorem role_ne_command_iff {arg : Bytes} : role arg ≠ .command ↔ Recognized arg := by
  constructor
  · exact recognized_of_role_ne_command
  · rintro ⟨flag, hflag, rfl | ⟨value, rfl⟩⟩
    · rw [role_flag hflag]
      exact nofun
    · rw [role_flag_append hflag]
      exact nofun

/-- The bytes in front of the equals sign are then those of a flag, and hence a text. -/
theorem not_recognized_of_invalid {arg : Bytes}
    (h : Utf8.decode? (arg.takeWhile (· != equals)) = none) : ¬ Recognized arg := by
  rintro ⟨flag, hflag, rfl | ⟨value, rfl⟩⟩
  · rw [takeWhile_ne_eq_self (equals_not_mem_encode hflag), Utf8.decode?_encode] at h
    cases h
  · rw [takeWhile_ne_append (equals_not_mem_encode hflag), Utf8.decode?_encode] at h
    cases h

/-! ### Fronts -/

/-- What can stand in front of a command: settings, and perhaps the flag of one more, whose value
    is missing. -/
structure Front where
  settings : List Setting
  unfinished : Option {flag : String // flag ∈ settingFlags}

/-- The argument of an unfinished setting, if there is one. -/
def unfinishedWritten : Option {flag : String // flag ∈ settingFlags} → List Bytes
  | none => []
  | some flag => [Utf8.encode flag]

namespace Front

/-- The arguments of a front. -/
def written (f : Front) : List Bytes :=
  f.settings.flatMap Setting.written ++ unfinishedWritten f.unfinished

/-- A front is all there is before the arguments behind it: they do not begin another setting, and
    there are none if its last value is missing. -/
structure Before (f : Front) (behind : List Bytes) : Prop where
  ended : f.unfinished.isSome → behind = []
  command : ∀ arg ∈ behind.head?, role arg = .command

end Front

/-- The flag and the value of a setting with an equals sign are where they are. -/
theorem encode_append_inj {flag flag' : String} {value value' : Bytes}
    (hflag : flag ∈ settingFlags) (hflag' : flag' ∈ settingFlags)
    (h : Utf8.encode flag ++ equals :: value = Utf8.encode flag' ++ equals :: value') :
    flag = flag' ∧ value = value' := by
  have hname := congrArg (List.takeWhile (· != equals)) h
  rw [takeWhile_ne_append (equals_not_mem_encode hflag),
    takeWhile_ne_append (equals_not_mem_encode hflag'), Utf8.encode_inj] at hname
  subst hname
  exact ⟨rfl, List.tail_eq_of_cons_eq (List.append_cancel_left h)⟩

/-- It is not written as a flag alone. -/
theorem encode_append_ne {flag flag' : String} (hflag' : flag' ∈ settingFlags) (value : Bytes) :
    Utf8.encode flag ++ equals :: value ≠ Utf8.encode flag' := by
  intro h
  refine equals_not_mem_encode hflag' ?_
  rw [← h]
  simp

/-- The first setting of some arguments is determined, and so is what follows it. -/
theorem Setting.written_append_inj {s t : Setting} {xs ys : List Bytes}
    (h : s.written ++ xs = t.written ++ ys) : s = t ∧ xs = ys := by
  obtain ⟨flag, hflag, value, attached⟩ := s
  obtain ⟨flag', hflag', value', attached'⟩ := t
  unfold Setting.written at h
  -- Only settings of the same form can agree: a flag alone has no equals sign in it.
  cases attached with
  | true =>
    cases attached' with
    | true =>
      obtain ⟨hwhole, hrest⟩ := List.cons.inj h
      obtain ⟨rfl, rfl⟩ := encode_append_inj hflag hflag' hwhole
      exact ⟨rfl, hrest⟩
    | false => exact absurd (List.cons.inj h).1 (encode_append_ne hflag' value)
  | false =>
    cases attached' with
    | true => exact absurd (List.cons.inj h).1.symm (encode_append_ne hflag value')
    | false =>
      obtain ⟨hname, hbehind⟩ := List.cons.inj h
      obtain ⟨rfl, hrest⟩ := List.cons.inj hbehind
      obtain rfl := Utf8.encode_inj.mp hname
      exact ⟨rfl, hrest⟩

/-- Arguments with a setting in front are more than an unfinished one. -/
theorem Setting.written_append_ne (s : Setting) (xs : List Bytes)
    (last : Option {flag : String // flag ∈ settingFlags}) :
    s.written ++ xs ≠ unfinishedWritten last := by
  obtain ⟨flag, hflag, value, attached⟩ := s
  unfold Setting.written unfinishedWritten
  intro h
  cases last with
  | none => cases attached <;> cases h
  | some flag' =>
    cases attached with
    | true => exact encode_append_ne flag'.2 value (List.cons.inj h).1
    | false => cases (List.cons.inj h).2

/-- **The arguments of a front are those of no other.** -/
theorem Front.written_inj {f g : Front} (h : f.written = g.written) : f = g := by
  obtain ⟨settings, last⟩ := f
  obtain ⟨settings', last'⟩ := g
  unfold Front.written at h
  simp only at h
  -- On the settings of one of them; the other has to have one too as long as it has.
  induction settings generalizing settings' with
  | nil =>
    cases settings' with
    | nil =>
      cases last with
      | none =>
        cases last' with
        | none => rfl
        | some flag' => cases h
      | some flag =>
        cases last' with
        | none => cases h
        | some flag' =>
          obtain rfl := Subtype.ext (Utf8.encode_inj.mp (List.cons.inj h).1)
          rfl
    | cons t settings' =>
      rw [List.flatMap_cons, List.append_assoc] at h
      exact absurd h.symm (t.written_append_ne _ last)
  | cons s settings ih =>
    rw [List.flatMap_cons, List.append_assoc] at h
    cases settings' with
    | nil => exact absurd h (s.written_append_ne _ last')
    | cons t settings' =>
      rw [List.flatMap_cons, List.append_assoc] at h
      obtain ⟨rfl, hrest⟩ := Setting.written_append_inj h
      obtain ⟨rfl, rfl⟩ := Front.mk.inj (ih settings' hrest)
      rfl

/-! ### Splitting -/

/-- Any arguments are a front and what stands behind it. -/
theorem exists_front (args : List Bytes) :
    ∃ front behind, args = Front.written front ++ behind ∧ front.Before behind := by
  match args with
  | [] => exact ⟨⟨[], none⟩, [], rfl, fun _ => rfl, by simp⟩
  | arg :: rest =>
    -- The front ends at a command or in a flag without a value, and else goes on behind a setting.
    by_cases hrole : role arg = .command
    · exact ⟨⟨[], none⟩, arg :: rest, rfl, by simp, by simpa using hrole⟩
    · obtain ⟨flag, hflag, rfl | ⟨value, rfl⟩⟩ := recognized_of_role_ne_command hrole
      · match rest with
        | [] => exact ⟨⟨[], some ⟨flag, hflag⟩⟩, [], rfl, fun _ => rfl, by simp⟩
        | value :: rest =>
          obtain ⟨⟨settings, last⟩, behind, rfl, hended, hcommand⟩ := exists_front rest
          exact ⟨⟨⟨flag, hflag, value, false⟩ :: settings, last⟩, behind, rfl, hended, hcommand⟩
      · obtain ⟨⟨settings, last⟩, behind, rfl, hended, hcommand⟩ := exists_front rest
        exact ⟨⟨⟨flag, hflag, value, true⟩ :: settings, last⟩, behind, rfl, hended, hcommand⟩

section Split

variable {front : Front} {behind : List Bytes}

/-- A front is split off from what stands behind it. -/
theorem leading_front (h : front.Before behind) :
    leading false (front.written ++ behind) = front.written := by
  obtain ⟨settings, last⟩ := front
  unfold Front.written
  rw [List.append_assoc, leading_flatMap_written]
  -- Behind the settings, a flag without a value is the end of the arguments.
  cases last with
  | none =>
    have hnone : leading false behind = [] := leading_eq_nil_iff.mpr h.command
    exact congrArg _ hnone
  | some flag =>
    obtain rfl := h.ended rfl
    simp [unfinishedWritten, leading, role_flag flag.2]

/-- It is all there is before nothing. -/
theorem Front.before_nil (front : Front) : front.Before [] := ⟨fun _ => rfl, by simp⟩

/-- What stands behind a front is what stands behind none. -/
theorem Front.Before.empty (h : front.Before behind) : Before ⟨[], none⟩ behind :=
  ⟨by simp, h.command⟩

/-- Behind settings with their values, the split goes on exactly if the next argument begins a
    setting. -/
theorem lt_commandStart_iff (program : Bytes) (settings : List Setting) (arg : Bytes)
    (behind : List Bytes) :
    (settings.flatMap Setting.written).length + 1
        < (split (program :: (settings.flatMap Setting.written ++ arg :: behind))).commandStart
      ↔ Recognized arg := by
  -- The split goes on exactly if something of what follows is split off.
  have hnext : leading false (arg :: behind) ≠ [] ↔ Recognized arg := by
    rw [ne_eq, leading_eq_nil_iff, ← role_ne_command_iff]
    simp
  show _ < (leading false _).length + 1 ↔ _
  rw [leading_flatMap_written, List.length_append, ← hnext, ← List.length_pos_iff]
  omega

end Split

/-- **The split of any arguments loses, doubles and misplaces nothing.** For all arguments that
    there are any of:
    * what is split off stands at the front of them, with the program name at least, and the
      command is the program name and all the others;
    * behind the program name, what is split off is a front in exactly one way, which lacks a last
      value only where the arguments end;
    * the first argument behind it begins no setting;
    * behind settings with their values, an argument is split off exactly if its bytes begin one,
      whatever they are behind the equals sign; in front of it they have to be a text;
    * what was split off is split off again as a whole, and from the command nothing is. -/
theorem split_exact {args : List Bytes} (h : args ≠ []) :
    (1 ≤ (split args).commandStart ∧ (split args).commandStart ≤ args.length) ∧
    (split args).settings = args.take (split args).commandStart ∧
    commandArguments args = args.head h :: args.drop (split args).commandStart ∧
    (∃ front : Front, (split args).settings = args.head h :: front.written ∧
      (front.unfinished.isSome → (split args).commandStart = args.length) ∧
      ∀ other : Front, (split args).settings = args.head h :: other.written → other = front) ∧
    (∀ arg ∈ args[(split args).commandStart]?, ¬ Recognized arg) ∧
    (∀ (settings : List Setting) arg behind,
      args.tail = settings.flatMap Setting.written ++ arg :: behind →
        ((settings.flatMap Setting.written).length + 1 < (split args).commandStart ↔
          Recognized arg)) ∧
    (∀ arg, Utf8.decode? (arg.takeWhile (· != equals)) = none → ¬ Recognized arg) ∧
    split (split args).settings = ⟨(split args).settings, (split args).settings.length⟩ ∧
    split (commandArguments args) = ⟨[args.head h], 1⟩ := by
  obtain ⟨program, rest, rfl⟩ := List.exists_cons_of_ne_nil h
  -- All parts are read off the front, which is the split.
  obtain ⟨front, behind, rfl, hbefore⟩ := exists_front rest
  have hsplit := split_of_leading program (leading_front hbefore)
  have hcommand := commandArguments_of_leading program (leading_front hbefore)
  have hagain : split (program :: front.written)
      = ⟨program :: front.written, (program :: front.written).length⟩ := by
    have hwhole := split_of_leading program (leading_front front.before_nil)
    rwa [List.append_nil] at hwhole
  rw [hsplit, hcommand, List.head_cons, List.tail_cons]
  refine ⟨by simp, by simp, by simp, ⟨front, rfl, ?_, ?_⟩, ?_, ?_,
    fun arg => not_recognized_of_invalid, hagain,
    split_of_leading program (leading_front hbefore.empty)⟩
  · intro hunfinished
    rw [hbefore.ended hunfinished, List.append_nil]
    rfl
  · intro other hother
    exact Front.written_inj (List.cons.inj hother).2.symm
  · intro arg harg hrecognized
    have hhead : arg ∈ behind.head? := by
      rw [List.getElem?_cons_succ, List.getElem?_append_right (Nat.le_refl _), Nat.sub_self] at harg
      rwa [List.head?_eq_getElem?]
    exact role_ne_command_iff.mpr hrecognized (hbefore.command arg hhead)
  · intro settings arg behind' hrest
    have hnext := lt_commandStart_iff program settings arg behind'
    rwa [← hrest, hsplit] at hnext

/-- A value that is no text and one that is spelled like a flag are split off; a flag with a byte
    behind it that makes it no text begins the command, and its value does not matter. -/
theorem split_exact_hostile :
    let broken := Utf8.encode "--log-format" ++ [0xFF, equals, 0x78]
    let args : List Bytes := [Utf8.encode "lez",
      Utf8.encode "--log-filter" ++ [equals, 0xFF],
      Utf8.encode "--grammar-path", Utf8.encode "--log-format",
      broken, Utf8.encode "--config-path"]
    args ≠ [] ∧ ¬ Recognized broken ∧
      (split args).settings = args.take 4 ∧
      commandArguments args = Utf8.encode "lez" :: [broken, Utf8.encode "--config-path"] := by
  intro broken args
  have hargs : args ≠ [] := List.cons_ne_nil _ _
  obtain ⟨-, hsettings, hcommand, -, -, -, hinvalid, -⟩ := split_exact hargs
  have hbroken : ¬ Recognized broken := hinvalid broken (by decide)
  have hstart : (split args).commandStart = 4 := by decide
  refine ⟨hargs, hbroken, ?_, ?_⟩
  · rw [← hstart]
    exact hsettings
  · have hdrop : args.drop (split args).commandStart
        = [broken, Utf8.encode "--config-path"] := by
      rw [hstart]
      rfl
    rw [← hdrop]
    exact hcommand

/-- A flag at the end is split off without a value. -/
example : (split [Utf8.encode "lez", Utf8.encode "--log-filter"]).commandStart = 2 := by decide

end ZoneAccess.Arguments

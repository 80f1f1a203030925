import ZoneAccess.Proofs.Settings.Types
import ZoneAccess.Settings.Load

namespace ZoneAccess.Settings

/-!
# Which layer decides

Every setting is decided by the highest layer that sets it, on its own.

* `Sources.highest` — the value of the highest layer that sets a setting;
* `Sources.winning` — the value that counts, which is the highest, but for tables that the
  environment and the file both give for the form of log records;
* `Sources.read?_merged` — the layers together make of each setting what the value that counts for
  it makes;
* `Sources.LoadedFrom` — the layers that a command line and its surroundings load to;
* **`load_by_layers`** — the settings that are loaded are what the values that count make.
-/

/-! ### The layers together -/

namespace Sources

/-- What the command line gives for a setting, if it counts at all. -/
def given (s : Sources) (f : Field) : Option Value :=
  if s.commandLine.isDefault then none else s.commandLine.layer f

/-- The value of the highest layer that sets a setting. -/
def highest (s : Sources) (f : Field) : Option Value :=
  (s.given f).or ((s.environment f).or ((s.file f).or (defaults f)))

/-- The value that counts for a setting. Tables for the form of log records, one in the
    environment and one in a file below it, count together: the names of both, each as the
    environment has it if it does. -/
def winning (s : Sources) : Field → Option Value
  | .logFormat =>
    match s.given .logFormat, s.environment .logFormat, s.file .logFormat with
    | none, some (.table upper), some (.table lower) =>
      some (.table (upper ++ lower.filter fun (name, _) => !upper.any (·.1 == name)))
    | _, _, _ => s.highest .logFormat
  | f => s.highest f

/-- Sources that give the same for every setting but one. -/
structure AgreeOff (g : Field) (s s' : Sources) : Prop where
  commandLine : ∀ f, f ≠ g → s.commandLine.layer f = s'.commandLine.layer f
  environment : ∀ f, f ≠ g → s.environment f = s'.environment f
  file : ∀ f, f ≠ g → s.file f = s'.file f

/-- Every field but the log format takes its value from the highest source that has one. -/
theorem winning_of_ne {s : Sources} {f : Field} (hf : f ≠ .logFormat) :
    s.winning f = s.highest f := by
  cases f <;> first | rfl | exact absurd rfl hf

/-- A command line is left out if it gives all that is given by default and nothing else. -/
theorem isDefault_iff {c : CommandLine} :
    c.isDefault = true ↔ c.configPath = none ∧ ∀ f, c.layer f = defaults f := by
  have hall : (∀ f ∈ Field.all, (c.layer f == defaults f) = true) ↔
      ∀ f, c.layer f = defaults f := by
    constructor
    · intro h f
      exact eq_of_beq (h f (by cases f <;> decide))
    · intro h f _
      rw [h f]
      exact beq_self_eq_true _
  unfold CommandLine.isDefault
  rw [Bool.and_eq_true, Option.isNone_iff_eq_none, List.all_eq_true, hall]

section Above

variable {upper lower : Layer} {f : Field}

/-- A source without a value for a field leaves the one below. -/
theorem above_of_none (h : upper f = none) : upper.above lower f = lower f := by
  unfold Layer.above
  rw [h]

/-- A value that is no table counts as it is, whatever is below it. -/
theorem above_of_not_table {v : Value} (h : upper f = some v) (hv : ∀ t, v ≠ .table t) :
    upper.above lower f = some v := by
  have habove (w : Value) : v.above w = v := by
    cases v <;> first | rfl | exact absurd rfl (hv _)
  unfold Layer.above
  rw [h]
  cases lower f with
  | none => rfl
  | some w => exact congrArg some (habove w)

/-- So does any value above one that is no table. -/
theorem above_not_table {w : Value} (h : lower f = some w) (hw : ∀ t, w ≠ .table t) :
    upper.above lower f = (upper f).or (some w) := by
  have habove (v : Value) : v.above w = v := by
    cases v <;> cases w <;> first | rfl | exact absurd rfl (hw _)
  unfold Layer.above
  rw [h]
  cases upper f with
  | none => rfl
  | some v => exact congrArg some (habove v)

end Above

/-- Of a setting that takes no table, the upper of two layers makes what it says alone. -/
theorem read?_above {f : Field} (hf : f ≠ .logFormat) (upper lower : Layer) :
    f.read? (upper.above lower f) = f.read? ((upper f).or (lower f)) := by
  have htable (t : List (String × Bool)) : f.read? (some (.table t)) = none := by
    cases f <;> first | rfl | exact absurd rfl hf
  unfold Layer.above
  cases upper f with
  | none => cases lower f <;> rfl
  | some u =>
    cases lower f with
    | none => rfl
    | some l =>
      show f.read? (some (u.above l)) = f.read? (some u)
      -- Only two tables are joined, and no setting of this kind takes a table, joined or not.
      have habove : u.above l = u ∨ ∃ t t', u = .table t ∧ u.above l = .table t' := by
        cases u <;> cases l <;> simp [Value.above]
      obtain habove | ⟨t, t', rfl, habove⟩ := habove
      · rw [habove]
      · rw [habove, htable, htable]

/-- The layers together are the command line, if it counts, above the rest. -/
theorem merged_eq (s : Sources) :
    s.merged = Layer.above s.given (s.environment.above (s.file.above defaults)) := by
  funext f
  unfold merged given Layer.above
  cases s.commandLine.isDefault <;> rfl

/-- Of a setting that takes no table, the layers together make what the highest does. -/
theorem read?_merged_of_ne {s : Sources} {f : Field} (hf : f ≠ .logFormat) :
    f.read? (s.merged f) = f.read? (s.highest f) := by
  rw [merged_eq, read?_above hf, highest]
  -- From the top down: the first layer with a value hides all others.
  cases s.given f with
  | some v => rfl
  | none =>
    rw [Option.none_or, Option.none_or, read?_above hf]
    cases s.environment f with
    | some v => rfl
    | none => rw [Option.none_or, Option.none_or, read?_above hf]

/-- The form of log records that the layers give together, if the command line gives no table. -/
theorem merged_logFormat {s : Sources} (h : ∀ t, s.given .logFormat ≠ some (.table t)) :
    s.merged .logFormat = s.winning .logFormat := by
  have hdefault : defaults .logFormat = some (.text "compact") := rfl
  -- What is given by default is a text, so the file counts as it is.
  have hfile : s.file.above defaults .logFormat
      = (s.file .logFormat).or (some (.text "compact")) :=
    above_not_table hdefault fun t heq => by cases heq
  rw [merged_eq]
  cases hgiven : s.given .logFormat with
  | some v =>
    rw [above_of_not_table hgiven fun t heq => h t (heq ▸ hgiven)]
    simp [winning, highest, hgiven]
  | none =>
    rw [above_of_none hgiven]
    cases henvironment : s.environment .logFormat with
    | none =>
      rw [above_of_none henvironment, hfile]
      simp [winning, highest, hgiven, henvironment, hdefault]
    | some v =>
      cases hlower : s.file .logFormat with
      | none =>
        rw [hlower] at hfile
        rw [above_not_table hfile fun t heq => by cases heq]
        simp [winning, highest, hgiven, henvironment, hlower]
      | some w =>
        rw [hlower] at hfile
        -- Both the environment and a file give one, which is where tables join.
        unfold Layer.above at hfile ⊢
        simp only [henvironment, hfile]
        simp only [winning, highest, hgiven, henvironment, hlower]
        cases v <;> cases w <;> rfl

/-- **The layers together make of every setting what the value that counts for it makes.** -/
theorem read?_merged {s : Sources} (h : ∀ t, s.given .logFormat ≠ some (.table t)) (f : Field) :
    f.read? (s.merged f) = f.read? (s.winning f) := by
  by_cases hf : f = .logFormat
  · subst hf
    rw [merged_logFormat h]
  · rw [read?_merged_of_ne hf, winning_of_ne hf]

end Sources

/-! ### Loading -/

/-- The command line gives no table. -/
theorem layer_ofGiven_ne_table (g : GivenFlags) (f : Field) (t : List (String × Bool)) :
    (CommandLine.ofGiven g).layer f ≠ some (.table t) := by
  intro h
  obtain ⟨bytes, -, hvalue⟩ := Option.bind_eq_some_iff.mp h
  have hgiven : givenValue f bytes = .ok (.table t) := by
    cases hresult : givenValue f bytes with
    | error e => simp [hresult, Except.toOption] at hvalue
    | ok v =>
      rw [hresult] at hvalue
      exact congrArg Except.ok (Option.some.inj hvalue)
  unfold givenValue at hgiven
  cases hdecoded : Utf8.decode? bytes with
  | none => simp [hdecoded] at hgiven
  | some text =>
    simp only [hdecoded] at hgiven
    -- Most flags give a text, one a number and one a name.
    cases f <;> simp only [Except.ok.injEq, reduceCtorEq] at hgiven
    · cases hseconds : seconds? text <;> simp [hseconds] at hgiven
    · cases hform : LogFormat.parse? text <;> simp [hform] at hgiven

/-- These are the layers that a command line and its surroundings load to, without a fault. -/
structure Sources.LoadedFrom (s : Sources) (args : List Bytes) (around : Surroundings) :
    Prop where
  commandLine : ∃ given, grammar.read (args.drop 1) = .ok given ∧
    s.commandLine = .ofGiven given
  path : s.commandLine.hasUndecodablePath = false
  environment : s.environment = around.variables.layer
  file : SettingsFile.discover around.files around.directory s.commandLine.configPath
    around.variables = (s.file, [])

/-- The layers that given flags and their surroundings load to, if there is no fault. -/
def Sources.ofGiven (given : GivenFlags) (around : Surroundings) : Sources where
  commandLine := .ofGiven given
  environment := around.variables.layer
  file := (SettingsFile.discover around.files around.directory (given.value? "config-path")
    around.variables).1

section Loaded

variable {args : List Bytes} {around : Surroundings} {s : Sources}

/-- Without a fault, they do. -/
theorem loadedFrom_ofGiven {given : GivenFlags} (hread : grammar.read (args.drop 1) = .ok given)
    (hpath : (CommandLine.ofGiven given).hasUndecodablePath = false)
    (hfile : (SettingsFile.discover around.files around.directory (given.value? "config-path")
      around.variables).2 = []) :
    (Sources.ofGiven given around).LoadedFrom args around where
  commandLine := ⟨given, hread, rfl⟩
  path := hpath
  environment := rfl
  file := Prod.ext rfl hfile

/-- Then the settings are what the layers make together. -/
theorem load_of_loaded (h : s.LoadedFrom args around) :
    load args around = match ofLayer? s.merged with
      | some settings => .ok settings
      | none => .error [.illTyped] := by
  obtain ⟨given, hread, hcommand⟩ := h.commandLine
  have hs : (⟨s.commandLine, around.variables.layer, s.file⟩ : Sources) = s := by
    rw [← h.environment]
  unfold load
  simp only [hread, ← hcommand, h.file, h.path, Bool.false_eq_true, if_false, hs]
  unfold Sources.settings
  cases ofLayer? s.merged <;> rfl

/-- On the command line no field is given a table. -/
theorem given_ne_table (h : s.LoadedFrom args around) (f : Field) (t : List (String × Bool)) :
    s.given f ≠ some (.table t) := by
  obtain ⟨given, -, hcommand⟩ := h.commandLine
  unfold Sources.given
  rw [hcommand]
  split
  · simp
  · exact layer_ofGiven_ne_table given f t

/-- They are what the values that count make of each setting. -/
theorem load_eq_ok_iff (h : s.LoadedFrom args around) {r : Settings} :
    load args around = .ok r ↔ ∀ f : Field, f.read? (s.winning f) = some (r.toLayer f) := by
  have hmerged (f : Field) := Sources.read?_merged (given_ne_table h .logFormat) f
  have hmake := ofLayer?_eq_some_iff (l := s.merged) (r := r)
  simp only [hmerged] at hmake
  rw [load_of_loaded h, ← hmake]
  cases ofLayer? s.merged <;> simp

/-- There are none if such a value is ill typed, and that is all that can be wrong. -/
theorem load_eq_error_iff (h : s.LoadedFrom args around) {faults : List SettingsFault} :
    load args around = .error faults ↔
      faults = [.illTyped] ∧ ∃ f : Field, f.read? (s.winning f) = none := by
  have hmerged (f : Field) := Sources.read?_merged (given_ne_table h .logFormat) f
  have hmake := ofLayer?_eq_none_iff (l := s.merged)
  simp only [hmerged] at hmake
  rw [load_of_loaded h, ← hmake]
  cases ofLayer? s.merged <;> simp [eq_comm]

end Loaded

namespace Sources.AgreeOff

variable {g : Field} {s s' : Sources}

/-- What counts for a setting depends on what is given for that setting, and on whether the
    command line counts. -/
theorem winning_eq (h : s.AgreeOff g s')
    (hcounts : s.commandLine.isDefault = s'.commandLine.isDefault) {f : Field} (hf : f ≠ g) :
    s.winning f = s'.winning f := by
  have hgiven : s.given f = s'.given f := by
    unfold given
    rw [hcounts, h.commandLine f hf]
  have henvironment := h.environment f hf
  have hfile := h.file f hf
  have hhighest : s.highest f = s'.highest f := by
    unfold highest
    rw [hgiven, henvironment, hfile]
  by_cases hform : f = .logFormat
  · subst hform
    simp only [winning, hgiven, henvironment, hfile, hhighest]
  · rw [winning_of_ne hform, winning_of_ne hform, hhighest]

end Sources.AgreeOff

/-- Two tables for the form of log records count together: each names a form on its own, and both
    together do not. -/
theorem load_joins_tables :
    let args : List Bytes := [Utf8.encode "lez"]
    let around : Surroundings := {
      files := ⟨[([Utf8.encode ".lez.toml"],
        .file ⟨Utf8.encode "log_format = \x7bcompact = nan\x7d\n", false, none⟩)]⟩
      directory := Utf8.encode "/"
      «variables» := [(Utf8.encode "LEZ_LOG_FORMAT__JSON", Utf8.encode "1.e999")] }
    let s := Sources.ofGiven ⟨[], []⟩ around
    s.LoadedFrom args around ∧
      (Field.all.all fun f => (f.read? (s.highest f)).isSome) = true ∧
      s.highest .logFormat = some (.table [("json", true)]) ∧
      load args around = .error [.illTyped] := by
  intro args around s
  have hloaded : s.LoadedFrom args around := loadedFrom_ofGiven rfl rfl (by decide +kernel)
  have hhighest : (Field.all.all fun f => (f.read? (s.highest f)).isSome) = true := by
    decide +kernel
  have hjson : s.highest .logFormat = some (.table [("json", true)]) := by decide +kernel
  have htogether : Field.logFormat.read? (s.winning .logFormat) = none := by decide +kernel
  exact ⟨hloaded, hhighest, hjson, (load_eq_error_iff hloaded).mpr ⟨rfl, _, htogether⟩⟩

/-- **Every setting is decided on its own, by the highest layer that sets it.** The command line is
    left out when it spells out the defaults and nothing else. There are settings unless the value
    that counts for one of them is ill typed, whatever is below it; and what is changed about one
    setting, in any layer, does not change another. -/
theorem load_by_layers {args : List Bytes} {around : Surroundings} {s : Sources}
    (h : s.LoadedFrom args around) :
    (s.commandLine.isDefault = true ↔
        s.commandLine.configPath = none ∧ ∀ f, s.commandLine.layer f = defaults f) ∧
      (∀ r, load args around = .ok r ↔
        ∀ f : Field, f.read? (s.winning f) = some (r.toLayer f)) ∧
      (∀ faults, load args around = .error faults ↔
        faults = [.illTyped] ∧ ∃ f : Field, f.read? (s.winning f) = none) ∧
      ∀ args' around' s' g, Sources.LoadedFrom s' args' around' → s.AgreeOff g s' →
        s.commandLine.isDefault = s'.commandLine.isDefault →
        ∀ r r', load args around = .ok r → load args' around' = .ok r' →
          ∀ f, f ≠ g → r.toLayer f = r'.toLayer f := by
  refine ⟨Sources.isDefault_iff, fun r => load_eq_ok_iff h, fun faults => load_eq_error_iff h, ?_⟩
  intro args' around' s' g h' hagree hcounts r r' hload hload' f hf
  -- Both runs read this setting off the same value.
  have hr := (load_eq_ok_iff h).mp hload f
  have hr' := (load_eq_ok_iff h').mp hload' f
  rw [hagree.winning_eq hcounts hf, hr'] at hr
  exact (Option.some.inj hr).symm

/-- Values of other types are masked by the command line and by the environment, and another
    predicate in the environment changes nothing else. -/
theorem load_by_layers_masked :
    let args : List Bytes := [Utf8.encode "lez", Utf8.encode "--log-filter=info"]
    let around (predicate : String) : Surroundings := {
      files := ⟨[([Utf8.encode ".lez.toml"],
        .file ⟨Utf8.encode "entry_predicate = 7\n", false, none⟩)]⟩
      directory := Utf8.encode "/"
      «variables» := [(Utf8.encode "LEZ_LOG_FILTER", Utf8.encode "3"),
        (Utf8.encode "LEZ_ENTRY_PREDICATE", Utf8.encode predicate)] }
    let r (predicate : String) : Settings :=
      { Settings.default with entryPredicate := predicate, logFilter := "info" }
    load args (around "main") = .ok (r "main") ∧
      load args (around "other") = .ok (r "other") ∧
      (r "main").toLayer .logFilter = (r "other").toLayer .logFilter := by
  intro args around r
  let given : GivenFlags := ⟨[("log-filter", Utf8.encode "info")], []⟩
  let s (predicate : String) := Sources.ofGiven given (around predicate)
  have hmain : (s "main").LoadedFrom args (around "main") :=
    loadedFrom_ofGiven rfl rfl (by decide +kernel)
  have hother : (s "other").LoadedFrom args (around "other") :=
    loadedFrom_ofGiven rfl rfl (by decide +kernel)
  obtain ⟨-, hok, -, hsame⟩ := load_by_layers hmain
  have hloadMain : load args (around "main") = .ok (r "main") :=
    (hok _).mpr (Field.forall_iff.mpr (by decide +kernel))
  have hloadOther : load args (around "other") = .ok (r "other") :=
    ((load_by_layers hother).2.1 _).mpr (Field.forall_iff.mpr (by decide +kernel))
  have hagree : (s "main").AgreeOff .entryPredicate (s "other") := by
    refine ⟨fun f _ => rfl, ?_, fun f _ => ?_⟩
    · exact Field.forall_iff.mpr (by decide +kernel)
    · revert f
      exact Field.forall_iff.mpr (by decide +kernel)
  have hfilter : (r "main").toLayer .logFilter = (r "other").toLayer .logFilter :=
    hsame _ _ _ _ hother hagree rfl _ _ hloadMain hloadOther .logFilter (by decide)
  exact ⟨hloadMain, hloadOther, hfilter⟩

end ZoneAccess.Settings

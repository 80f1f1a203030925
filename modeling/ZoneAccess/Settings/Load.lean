import ZoneAccess.Arguments.Flags
import ZoneAccess.Settings.Files

namespace ZoneAccess

/-!
# Loading the settings

The settings of a program run come from four layers, the upper ones first: command line,
environment, settings file, defaults.

* `Sources` — the four layers, each a partial map from settings to values;
* `Sources.merged` — for each setting the value of the highest layer that sets it. The
  command line is left out when it spells out just the defaults;
* `SettingsFault` — what is wrong with a source, or with the merged values;
* `Settings.load` — the settings, or all that is wrong: the command line first, then the
  files, then the merged values. A command line that names a settings file by a path that
  is no text sets nothing.
-/

/-- What is wrong with the settings. -/
inductive SettingsFault
  | commandLine (e : UsageError)
  | file
  | tooNewFile
  | cyclicFile
  | undecodablePath
  | illTyped
  deriving DecidableEq

/-- What surrounds a run of the program: the files, the working directory and the
    environment. -/
structure Surroundings where
  files : FileSystem
  directory : Bytes
  «variables» : Variables

/-- The fault of the settings that a fault of a file is. -/
def SettingsFault.ofFile : SettingsFile.Fault → SettingsFault
  | .unusable => .file
  | .tooNew => .tooNewFile
  | .cyclic => .cyclicFile

namespace Settings

/-! ### The command line -/

/-- A natural number below 2 ^ 64 in decimal digits, which a plus may precede. -/
def seconds? (s : String) : Option UInt64 :=
  let digits := match s.toList with
    | '+' :: cs => cs
    | cs => cs
  if digits ≠ [] && digits.all Char.isDigit then
    let n := Decimal.ofDigits digits
    if n < 18446744073709551616 then some (UInt64.ofNat n) else none
  else none

/-- What the command line gives for a setting. -/
def givenValue (f : Field) (bytes : Bytes) : Except UsageError Value :=
  match Utf8.decode? bytes with
  | none => .error .notText
  | some s =>
    match f with
    | .queryTimeoutSecs =>
      match seconds? s with
      | some n => .ok (.integer n.toNat)
      | none => .error .malformedValue
    | .logFormat =>
      match LogFormat.parse? s with
      | some format => .ok (.text format.name)
      | none => .error .malformedValue
    | _ => .ok (.text s)

/-- The letter of a setting on the command line. -/
def letter : Field → UInt8
  | .engineExecutable => 101
  | .ruleBasePath => 114
  | .grammarPath => 103
  | .entryPredicate => 69
  | .queryTimeoutSecs => 113
  | .logFilter => 108
  | .logFormat => 76

/-- The flags that give settings. -/
def grammar : Grammar where
  flags :=
    Field.all.map (fun f =>
      ⟨f.flagName, some (letter f), .value fun v => (givenValue f v).map fun _ => ()⟩) ++
    [⟨"config-path", none, .value fun v => if v = [] then .error .invalidValue else .ok ()⟩,
      ⟨"help", some 104, .help⟩]
  words := false

/-- What the command line says: a layer, and the path of a settings file. -/
structure CommandLine where
  layer : Layer
  configPath : Option Bytes

/-- What the given flags say. -/
def CommandLine.ofGiven (g : GivenFlags) : CommandLine where
  layer f := (g.value? f.flagName).bind fun v => (givenValue f v).toOption
  configPath := g.value? "config-path"

/-- A command line without flags. -/
def CommandLine.empty : CommandLine := ⟨.empty, none⟩

/-- Whether the path that a command line gives is not text. -/
def CommandLine.hasUndecodablePath (c : CommandLine) : Bool :=
  c.configPath.any fun p => (Utf8.decode? p).isNone

/-- Whether a command line spells out the defaults and nothing else. -/
def CommandLine.isDefault (c : CommandLine) : Bool :=
  c.configPath.isNone && Field.all.all fun f => c.layer f == defaults f

/-! ### The layers together -/

/-- The layers that settings are made of, above the defaults. -/
structure Sources where
  commandLine : CommandLine
  environment : Layer
  file : Layer

/-- The layer that all sources make together. -/
def Sources.merged (s : Sources) : Layer :=
  let lower := s.environment.above (s.file.above defaults)
  if s.commandLine.isDefault then lower else s.commandLine.layer.above lower

/-- The settings that all sources make together. -/
def Sources.settings (s : Sources) : Except SettingsFault Settings :=
  match ofLayer? s.merged with
  | some settings => .ok settings
  | none => .error .illTyped

/-! ### From outside -/

/-- The settings that a command line, which starts with the program name, makes in its
    surroundings, or all that is wrong with them. -/
def load (args : List Bytes) (around : Surroundings) : Except (List SettingsFault) Settings :=
  let (commandLine, usage) := match grammar.read (args.drop 1) with
    | .ok given => (CommandLine.ofGiven given, [])
    | .error e => (CommandLine.empty, [SettingsFault.commandLine e])
  let (file, faults) := SettingsFile.discover around.files around.directory
    commandLine.configPath around.variables
  let undecodable := commandLine.hasUndecodablePath
  let faults := usage ++ faults.map SettingsFault.ofFile ++
    if undecodable then [.undecodablePath] else []
  -- A path that is no text takes the rest of the command line with it.
  let applied := if undecodable then CommandLine.empty else commandLine
  match Sources.settings ⟨applied, around.variables.layer, file⟩, faults with
  | .ok settings, [] => .ok settings
  | .ok _, faults => .error faults
  | .error e, faults => .error (faults ++ [e])

end Settings

end ZoneAccess

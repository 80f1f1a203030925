import ZoneAccess.Text.Utf8

namespace ZoneAccess

/-!
# Flags

Reading a command line by a list of known flags.

* `Flag` — a long name, perhaps a letter, and what the flag takes;
* `Grammar` — the flags, and whether words are allowed behind them;
* `Grammar.read` — the flags that are given, with their values, and the words.

A value is attached (`--name=value`, `-nvalue`, `-n=value`) or is the next argument, which
then must not look like a flag. The value of a flag is looked at when the next flag is
known, or at the end; an unknown flag is reported before any fault of a value in waiting.
The first word, or `--`, ends the flags.
-/

/-- Why a command line is not carried out as it stands: a mistake in it, or a request for
    help or for the version. -/
inductive UsageError
  | unknownArgument
  | invalidValue
  | malformedValue
  | repeated
  | notText
  | surplusValue
  | help
  | version
  deriving DecidableEq

/-- Whether the command line asked for information, so that there is no mistake in it. -/
def UsageError.isInformational : UsageError → Bool
  | help => true
  | version => true
  | _ => false

/-- What a flag takes: a value that passes a test, nothing, or nothing because it asks for
    help or for the version. -/
inductive Takes
  | value (test : Bytes → Except UsageError Unit)
  | nothing
  | help
  | version

/-- A flag that a command line may hold. -/
structure Flag where
  name : String
  letter : Option UInt8
  takes : Takes

/-- The flags of a command line, and whether words may follow them. -/
structure Grammar where
  flags : List Flag
  words : Bool

/-- What was read from a command line: each given flag with its value, which is empty for
    one that takes none, and the words. -/
structure GivenFlags where
  values : List (String × Bytes)
  words : List Bytes

/-- What was read so far: the finished flags, and one whose value is in waiting or, when
    there is none, still to come. -/
structure FlagProgress where
  values : List (String × Bytes)
  waiting : Option (Flag × Option Bytes)

/-- Finishes a flag: it must not have been given before, and its value must pass. -/
def Flag.finish (f : Flag) (value : Option Bytes) (values : List (String × Bytes)) :
    Except UsageError (List (String × Bytes)) :=
  match f.takes with
  | .help => .error .help
  | .version => .error .version
  | .nothing =>
    if values.any (·.1 == f.name) then .error .repeated else .ok (values ++ [(f.name, [])])
  | .value test =>
    match value with
    | none => .error .invalidValue
    | some v =>
      if values.any (·.1 == f.name) then .error .repeated
      else match test v with
        | .error e => .error e
        | .ok () => .ok (values ++ [(f.name, v)])

namespace FlagProgress

/-- Finishes the flag that is in waiting. -/
def settle (p : FlagProgress) : Except UsageError (List (String × Bytes)) :=
  match p.waiting with
  | none => .ok p.values
  | some (f, value) => f.finish value p.values

/-- Whether the next argument is a value, unless it looks like a flag. -/
def wantsValue (p : FlagProgress) : Bool :=
  match p.waiting with
  | some (_, none) => true
  | _ => false

/-- Takes a value for the flag in waiting. -/
def supply (p : FlagProgress) (v : Bytes) : FlagProgress :=
  { p with waiting := p.waiting.map fun (f, _) => (f, some v) }

/-- Settles, then finishes another flag at once. -/
def settleThen (p : FlagProgress) (f : Flag) (value : Option Bytes) :
    Except UsageError FlagProgress := do
  let values ← p.settle
  let values ← f.finish value values
  return ⟨values, none⟩

/-- Settles, then lets a flag wait for its value. -/
def settleAwait (p : FlagProgress) (f : Flag) : Except UsageError FlagProgress := do
  let values ← p.settle
  return ⟨values, some (f, none)⟩

end FlagProgress

/-- The byte of a dash. -/
def dash : UInt8 := 45

/-- The byte of an equals sign. -/
def equals : UInt8 := 61

/-- What precedes the first equals sign, and what follows it if there is one. -/
def splitAtEquals (arg : Bytes) : Bytes × Option Bytes :=
  let name := arg.takeWhile (· != equals)
  match arg.dropWhile (· != equals) with
  | [] => (name, none)
  | _ :: value => (name, some value)

/-- The forms of an argument: `--`, a long flag perhaps with a value, letters behind a
    dash, or a plain word. -/
inductive ArgumentForm
  | separator
  | long (name : Bytes) (value : Option Bytes)
  | letters (bytes : Bytes)
  | plain

/-- The form of an argument. -/
def argumentForm (arg : Bytes) : ArgumentForm :=
  match arg with
  | a :: b :: rest =>
    if a = dash && b = dash then
      if rest = [] then .separator
      else .long (splitAtEquals rest).1 (splitAtEquals rest).2
    else if a = dash then .letters (b :: rest)
    else .plain
  | _ => .plain

namespace Grammar

/-- The flag of a long name. -/
def named? (g : Grammar) (name : Bytes) : Option Flag :=
  g.flags.find? fun f => Utf8.encode f.name == name

/-- The flag of a letter. -/
def lettered? (g : Grammar) (letter : UInt8) : Option Flag :=
  g.flags.find? fun f => f.letter == some letter

/-- Reads a long flag. -/
def readLong (g : Grammar) (p : FlagProgress) (name : Bytes) (value : Option Bytes) :
    Except UsageError FlagProgress :=
  match g.named? name with
  | none => .error .unknownArgument
  | some f =>
    match f.takes, value with
    | .value _, none => p.settleAwait f
    | .value _, some v => p.settleThen f (some v)
    | _, none => p.settleThen f none
    | _, some _ => .error .surplusValue

/-- Reads the letters behind a dash; what follows a letter that takes a value is that
    value. -/
def readLetters (g : Grammar) (p : FlagProgress) : Bytes → Except UsageError FlagProgress
  | [] => .ok p
  | b :: bs =>
    match g.lettered? b with
    | none => .error .unknownArgument
    | some f =>
      match f.takes with
      | .value _ =>
        match bs with
        | [] => p.settleAwait f
        | c :: cs => p.settleThen f (some (if c = equals then cs else bs))
      | _ =>
        match p.settleThen f none with
        | .error e => .error e
        | .ok p => g.readLetters p bs

/-- The end of the flags: what is left are words, which have to be text. -/
def finish (g : Grammar) (p : FlagProgress) (words : List Bytes) :
    Except UsageError GivenFlags :=
  if words ≠ [] && !g.words then .error .unknownArgument
  else match p.settle with
    | .error e => .error e
    | .ok values =>
      if words.all fun w => (Utf8.decode? w).isSome then .ok ⟨values, words⟩
      else .error .notText

/-- Reads on. -/
def readFrom (g : Grammar) (p : FlagProgress) : List Bytes → Except UsageError GivenFlags
  | [] => g.finish p []
  | arg :: rest =>
    match argumentForm arg with
    | .separator => g.finish p rest
    | .long name value =>
      match g.readLong p name value with
      | .error e => .error e
      | .ok p => g.readFrom p rest
    | .letters bytes =>
      match g.readLetters p bytes with
      | .error e => .error e
      | .ok p => g.readFrom p rest
    | .plain =>
      -- The first plain argument that no flag waits for ends the flags.
      if p.wantsValue then g.readFrom (p.supply arg) rest else g.finish p (arg :: rest)

/-- Reads the arguments behind the program name. -/
def read (g : Grammar) (args : List Bytes) : Except UsageError GivenFlags :=
  g.readFrom ⟨[], none⟩ args

end Grammar

/-- Whether a flag is given. -/
def GivenFlags.has (g : GivenFlags) (name : String) : Bool := g.values.any (·.1 == name)

/-- The value of a flag. -/
def GivenFlags.value? (g : GivenFlags) (name : String) : Option Bytes := g.values.lookup name

end ZoneAccess

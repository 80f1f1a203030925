import ZoneAccess.Duration

namespace ZoneAccess

/-!
# Settings and their values

* `LogFormat` — the two forms of log records, by their names;
* `Settings` — what a run of the program is told from outside, complete and well typed;
* `Field`, `Value` — one setting, and a value that some source gives for it, of any type;
* `Value.above`, `Layer.above` — one source above another: the upper value counts, but of two
  tables the lower one keeps the names that the upper one lacks;
* `Layer` — what one source sets;
* `Settings.ofLayer?` — the settings of a complete layer, unless a value is ill typed;
* `Settings.defaults` — the layer below all others.
-/

/-- The form of log records. -/
inductive LogFormat
  | json
  | compact
  deriving DecidableEq

namespace LogFormat

/-- The name of a form. -/
def name : LogFormat → String
  | json => "json"
  | compact => "compact"

/-- The form of exactly this name. -/
def ofName? (s : String) : Option LogFormat :=
  if s = "json" then some json else if s = "compact" then some compact else none

/-- The form of a name in which capitals of ASCII may stand for small letters. -/
def parse? (s : String) : Option LogFormat := ofName? (String.ofList (s.toList.map Char.toLower))

/-- The wording for a name that is none. -/
def parseError : String := "Matching variant not found"

end LogFormat

/-- What a run of the program is told from outside. -/
structure Settings where
  engineExecutable : String
  ruleBasePath : String
  grammarPath : String
  entryPredicate : String
  queryTimeoutSecs : Option UInt64
  logFilter : String
  logFormat : LogFormat
  deriving DecidableEq

/-- How long a query may take; no limit, or one of zero seconds, is none. -/
def Settings.queryTimeout (s : Settings) : Option Duration :=
  match s.queryTimeoutSecs with
  | none => none
  | some secs => if secs = 0 then none else some (.ofSecs secs)

/-- The settings, one by one. -/
inductive Field
  | engineExecutable
  | ruleBasePath
  | grammarPath
  | entryPredicate
  | queryTimeoutSecs
  | logFilter
  | logFormat
  deriving DecidableEq

namespace Field

/-- All settings. -/
def all : List Field :=
  [engineExecutable, ruleBasePath, grammarPath, entryPredicate, queryTimeoutSecs, logFilter,
    logFormat]

/-- The name of a setting in files and in the environment. -/
def key : Field → String
  | engineExecutable => "engine_executable"
  | ruleBasePath => "rule_base_path"
  | grammarPath => "grammar_path"
  | entryPredicate => "entry_predicate"
  | queryTimeoutSecs => "query_timeout_secs"
  | logFilter => "log_filter"
  | logFormat => "log_format"

/-- The name of a setting on the command line, without its dashes. -/
def flagName : Field → String
  | engineExecutable => "engine-executable"
  | ruleBasePath => "rule-base-path"
  | grammarPath => "grammar-path"
  | entryPredicate => "entry-predicate"
  | queryTimeoutSecs => "query-timeout-secs"
  | logFilter => "log-filter"
  | logFormat => "log-format"

end Field

/-- A value as a source gives it. A number without a finite value is `nothing`. Of the
    values that no setting takes only the kind is kept, and of a table which names it has
    and whether what they stand for is nothing; a point in time counts as a table. -/
inductive Value
  | nothing
  | text (s : String)
  | integer (i : Int)
  | real
  | boolean
  | array
  | table (entries : List (String × Bool))
  deriving DecidableEq

namespace Value

/-- The text, of a value that is one. -/
def text? : Value → Option String
  | text s => some s
  | _ => none

/-- The time limit in seconds, of a value that is one: a natural number below 2 ^ 64, or
    nothing for no limit. -/
def limit? : Value → Option (Option UInt64)
  | integer i =>
    if 0 ≤ i && i < 18446744073709551616 then some (some (UInt64.ofNat i.toNat)) else none
  | nothing => some none
  | _ => none

/-- The form of log records, of a value that names one exactly: as a text, or as the only
    name in a table, which stands for nothing. -/
def logFormat? : Value → Option LogFormat
  | text s => LogFormat.ofName? s
  | table [(name, true)] => LogFormat.ofName? name
  | _ => none

/-- Whether a value is nothing. -/
def isNothing (v : Value) : Bool := v == nothing

/-- One value above another: of two tables the names of both, each as the upper one has it
    if it does; else the upper value. -/
def above : Value → Value → Value
  | table upper, table lower =>
    table (upper ++ lower.filter fun (name, _) => !upper.any (·.1 == name))
  | upper, _ => upper

end Value

/-- What one source sets. -/
abbrev Layer := Field → Option Value

namespace Layer

/-- A source that sets nothing. -/
def empty : Layer := fun _ => none

/-- One source above another, setting by setting. -/
def above (upper lower : Layer) : Layer := fun f =>
  match upper f, lower f with
  | some u, some l => some (u.above l)
  | some u, none => some u
  | none, l => l

/-- The source that sets what stands under the names of settings; of entries with one name
    the last counts. -/
def ofEntries (entries : List (String × Value)) : Layer := fun f => entries.reverse.lookup f.key

end Layer

namespace Settings

/-- The settings of a layer, if it gives each the type that it takes and leaves out none
    but the time limit. -/
def ofLayer? (l : Layer) : Option Settings := do
  let engineExecutable ← (l .engineExecutable).bind Value.text?
  let ruleBasePath ← (l .ruleBasePath).bind Value.text?
  let grammarPath ← (l .grammarPath).bind Value.text?
  let entryPredicate ← (l .entryPredicate).bind Value.text?
  let queryTimeoutSecs ← match l .queryTimeoutSecs with
    | none => some none
    | some v => v.limit?
  let logFilter ← (l .logFilter).bind Value.text?
  let logFormat ← (l .logFormat).bind Value.logFormat?
  return {
    engineExecutable, ruleBasePath, grammarPath, entryPredicate, queryTimeoutSecs, logFilter,
    logFormat }

/-- The settings where no source says otherwise. -/
def default : Settings where
  engineExecutable := "swipl"
  ruleBasePath := "kb.pl"
  grammarPath := "dcg.pl"
  entryPredicate := "process_tokens"
  queryTimeoutSecs := none
  logFilter := "warn"
  logFormat := .compact

/-- The layer that makes given settings. -/
def toLayer (s : Settings) : Layer
  | .engineExecutable => some (.text s.engineExecutable)
  | .ruleBasePath => some (.text s.ruleBasePath)
  | .grammarPath => some (.text s.grammarPath)
  | .entryPredicate => some (.text s.entryPredicate)
  | .queryTimeoutSecs => s.queryTimeoutSecs.map fun secs => .integer secs.toNat
  | .logFilter => some (.text s.logFilter)
  | .logFormat => some (.text s.logFormat.name)

/-- The layer below all others. -/
def defaults : Layer := default.toLayer

end Settings

end ZoneAccess

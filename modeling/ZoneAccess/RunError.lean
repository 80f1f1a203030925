import ZoneAccess.Query
import ZoneAccess.Settings.Load

namespace ZoneAccess

/-!
# Errors of a run

* `RunError` — what ends a run of the program early;
* `RunError.message` — its wording. A request for help or for the version counts as an
  error whose wording is the information.

Two more things can end a run early that are not among these: the system may refuse the
handler for interrupts or a thread for it, and a process that already has a keeper of log
records refuses another one. Both come before the engine is at work and end the run as a
mistake in the settings does, with a wording of their own. A run is taken to be the first of
its process, on a system that has a handler and a thread to give.
-/

/-- What ends a run of the program early. -/
inductive RunError
  | usage (e : UsageError)
  | settings (faults : List SettingsFault)
  | logFilter (filter : String)
  | entryPredicate (e : QueryError)
  | readInput (cause : SystemError)
  | writeOutput (cause : SystemError)
  | serialiseOutcome (cause : SystemError)
  deriving DecidableEq

/-- What the program says about itself. -/
def helpText : String :=
  "Check whether a vehicle may enter a low-emission zone.\n\n" ++
  "Configuration flags (--rule-base-path, --engine-executable, ...) must come before any " ++
  "other argument. Without a question, an interactive session reads one question per line " ++
  "from stdin.\n\n" ++
  "Usage: lez [OPTIONS] [QUERY]...\n\n" ++
  "Options:\n" ++
  "      --check            Verify the inference engine, rule base and grammar, then exit\n" ++
  "      --format <FORMAT>  Output format for the setup check and one-shot answers " ++
  "[possible values: human, json]\n" ++
  "  -h, --help             Print help\n" ++
  "  -V, --version          Print version\n"

/-- The name and the version of the program. -/
def versionText : String := "lez 0.1.0\n"

/-- The wording of a mistake on the command line. -/
def UsageError.message : UsageError → String
  | unknownArgument => "error: unexpected argument found"
  | invalidValue => "error: invalid or missing value for an argument"
  | malformedValue => "error: malformed value for an argument"
  | repeated => "error: an argument cannot be used multiple times"
  | notText => "error: invalid UTF-8 was detected in one or more arguments"
  | surplusValue => "error: unexpected value for an argument that takes none"
  | help => helpText
  | version => versionText

/-- The wording of a fault of the settings. -/
def SettingsFault.message : SettingsFault → String
  | commandLine e => e.message
  | file => "unusable configuration file"
  | tooNewFile => "configuration file in a newer language"
  | cyclicFile => "cyclic extends in a configuration file"
  | undecodablePath => "configuration path is not valid UTF-8"
  | illTyped => "ill-typed configuration value"

namespace RunError

/-- Whether the run was ended by a request for information. -/
def isInformational : RunError → Bool
  | usage e => e.isInformational
  | _ => false

/-- The wording of an error. -/
def message : RunError → String
  | usage e => e.message
  | settings faults =>
    "failed to load configuration: " ++ ", ".intercalate (faults.map SettingsFault.message)
  | logFilter filter => "failed to initialise logging: invalid log filter: " ++ filter
  | entryPredicate e => "invalid entry predicate in configuration: " ++ e.message
  | readInput cause => "failed to read input: " ++ cause.message
  | writeOutput cause => "failed to write output: " ++ cause.message
  | serialiseOutcome cause => "failed to serialise outcome: " ++ cause.message

end RunError

end ZoneAccess

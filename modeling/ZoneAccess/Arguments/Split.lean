import ZoneAccess.Text.Utf8

namespace ZoneAccess.Arguments

/-!
# Splitting the command line

The settings may be given by flags in front of everything else on the command line.

* `settingFlags` — the flags that give a setting;
* `split` — the program name with the settings that follow it, and where the command
  starts;
* `commandArguments` — the program name and the arguments from there on.

A setting is one argument with an equals sign, or a flag and the argument after it,
whatever that is. Arguments are decoded before they are compared, so that undecodable
bytes behind the equals sign do no harm.
-/

/-- The flags that give a setting. -/
def settingFlags : List String := [
  "--config-path", "--engine-executable", "--rule-base-path", "--grammar-path",
  "--entry-predicate", "--query-timeout-secs", "--log-filter", "--log-format"]

/-- What an argument is to the split: a setting complete in itself, a flag whose value is
    the next argument, or the start of the command. -/
inductive Role
  | complete
  | opening
  | command
  deriving DecidableEq

/-- The role of an argument that is not the value of a flag. -/
def role (arg : Bytes) : Role :=
  let text := Utf8.decodeCharsLossy arg
  let name := text.takeWhile (· != '=')
  if settingFlags.any (·.toList == name) then
    if text.contains '=' then .complete else .opening
  else .command

/-- The settings at the front of some arguments; `pending` says that the first is a value. -/
def leading (pending : Bool) : List Bytes → List Bytes
  | [] => []
  | arg :: rest =>
    if pending then arg :: leading false rest
    else match role arg with
      | .complete => arg :: leading false rest
      | .opening => arg :: leading true rest
      | .command => []

/-- A command line in two: the arguments for the settings, and where the command starts. -/
structure Split where
  settings : List Bytes
  commandStart : Nat

/-- Splits a command line, which starts with the program name. -/
def split : List Bytes → Split
  | [] => ⟨[], 0⟩
  | program :: rest =>
    let settings := leading false rest
    ⟨program :: settings, settings.length + 1⟩

/-- The program name, and the arguments from the start of the command on. -/
def commandArguments (args : List Bytes) : List Bytes :=
  args.take 1 ++ args.drop (split args).commandStart

end ZoneAccess.Arguments

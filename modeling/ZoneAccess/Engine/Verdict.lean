import ZoneAccess.Engine.Invocation
import ZoneAccess.Outcome
import ZoneAccess.Text.Blank
import ZoneAccess.Text.Search

namespace ZoneAccess

/-!
# Verdicts

What the report of one run of the engine means.

* `Stage` — whether the run was to check the setup or to answer a query;
* `Termination.describe` — the wording for the end of a run;
* `Report.verdict` — the outcome. A run that did not exit is a runtime error at either
  stage; a failing exit is an error of its stage, told in the words of stderr; after an
  exit with 0, a query failed if its answer begins with the error marker, and a setup run
  failed if the marker stands anywhere.
-/

/-- What a run of the engine was for. -/
inductive Stage
  | setup
  | query
  deriving DecidableEq

/-- The mark that the engine puts on errors. -/
def errorMarker : String := "ERROR:"

/-- The wording for the end of a run. -/
def Termination.describe : Termination → String
  | exited status => "engine exited with status " ++ toString status
  | signalled (some signal) => "engine was terminated by signal " ++ toString signal
  | signalled none => "engine was terminated without an exit status"
  | timedOut after => "engine did not finish within " ++ after.text ++ " and was stopped"
  | interrupted => "query was interrupted"

/-- The error of a stage. -/
def Stage.failure : Stage → String → Outcome
  | setup, message => .setupError message
  | query, message => .runtimeError message

namespace Report

/-- Whether the error marker stands anywhere in what a run wrote. -/
def mentionsError (r : Report) : Bool :=
  Text.occursIn errorMarker r.stdout || Text.occursIn errorMarker r.stderr

/-- The first of the two streams, stderr before stdout, that holds the error marker. -/
def errorReport (r : Report) : String :=
  if Text.occursIn errorMarker (Text.trim r.stderr) then Text.trim r.stderr
  else if Text.occursIn errorMarker (Text.trim r.stdout) then Text.trim r.stdout
  else "engine reported an error while loading"

/-- What a failing exit says: stderr, or the status if stderr is blank. -/
def exitMessage (r : Report) : String :=
  if Text.trim r.stderr = "" then r.termination.describe else Text.trim r.stderr

/-- What the report of a run means. -/
def verdict (r : Report) (stage : Stage) : Outcome :=
  match r.termination.exitStatus? with
  | none => .runtimeError r.termination.describe
  | some status =>
    if status = 0 then
      match stage with
      | .query =>
        if Text.startsWith errorMarker (Text.trim r.stdout) then
          .runtimeError (Text.trim r.stdout)
        else .success (Text.trim r.stdout)
      | .setup =>
        -- At the setup a warning with the marker counts, wherever it stands.
        if r.mentionsError then .setupError r.errorReport else .success (Text.trim r.stdout)
    else stage.failure r.exitMessage

end Report

end ZoneAccess

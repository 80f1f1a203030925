import ZoneAccess.Arguments.Request
import ZoneAccess.Console
import ZoneAccess.Outcome

namespace ZoneAccess

/-!
# Writing outcomes

* `Outcome.write` — an outcome in a format: as text, successes on stdout and failures on
  stderr, or as a record on stdout;
* `Outcome.exitStatus` — how a run ends whose last outcome this is.
-/

namespace Outcome

variable {σ : Type}

/-- Writes an outcome. -/
def write (o : Outcome) (format : OutputFormat) : Act σ Unit :=
  match format with
  | .human =>
    if o.isSuccess then Act.say (o.display ++ "\n") else Act.warn (o.display ++ "\n")
  | .json => do
    Act.sayOr .serialiseOutcome o.record
    Act.say "\n"

/-- How a run ends whose last outcome this is. -/
def exitStatus (o : Outcome) : ExitStatus := if o.isSuccess then .success else .failure

end Outcome

end ZoneAccess

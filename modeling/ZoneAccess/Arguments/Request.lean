import ZoneAccess.Arguments.Flags
import ZoneAccess.Question

namespace ZoneAccess

/-!
# Requests

What the command proper asks for.

* `OutputFormat` — how outcomes are written;
* `Request` — a setup check, a question, or a session; a check is all that is done when it
  is asked for together with a question;
* `Request.parse` — the request of a command line.
-/

/-- How outcomes are written: as plain text, or as one record in JSON. -/
inductive OutputFormat
  | human
  | json
  deriving DecidableEq

/-- What a command line asks for. -/
structure Request where
  check : Bool
  format : OutputFormat
  words : List String
  deriving DecidableEq

namespace Request

/-- The question on the command line, if it has words. -/
def question? (r : Request) : Option String :=
  if r.words = [] then none else some (Question.ofWords r.words)

/-- The format of a name. -/
def format? (name : Bytes) : Option OutputFormat :=
  if name = Utf8.encode "human" then some .human
  else if name = Utf8.encode "json" then some .json
  else none

/-- The flags of the command proper. -/
def grammar : Grammar where
  flags := [
    ⟨"check", none, .nothing⟩,
    ⟨"format", none, .value fun v =>
      if (format? v).isSome then .ok () else .error .invalidValue⟩,
    ⟨"help", some 104, .help⟩,
    ⟨"version", some 86, .version⟩]
  words := true

/-- The request that the given flags and words make. -/
def ofGiven (g : GivenFlags) : Request where
  check := g.has "check"
  format := ((g.value? "format").bind format?).getD .human
  words := g.words.map Utf8.decodeLossy

/-- The request of a command line, which starts with the program name. -/
def parse (args : List Bytes) : Except UsageError Request :=
  match grammar.read (args.drop 1) with
  | .error e => .error e
  | .ok given => .ok (ofGiven given)

end Request

end ZoneAccess

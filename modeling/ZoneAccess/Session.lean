import ZoneAccess.Console
import ZoneAccess.Pipeline
import ZoneAccess.Text.Cut

namespace ZoneAccess.Session

/-!
# Interactive sessions

A session checks the setup once and then answers one question per line, until `exit`, the
end of the input or an interrupt. A question that fails is reported, and the session goes
on.

* `Arrival` — what comes from outside while the prompt waits: a line, an interrupt, or a
  failure of the input;
* `linesOf`, `linesBefore`, `linesUntil` — input bytes as lines, each with its line feed, up
  to the end, up to an interrupt, or up to a failure;
* `answerLines` — the questions and answers;
* `run` — a whole session.
-/

variable {σ : Type}

/-- What comes while the prompt waits. Of a line in the middle of which the input fails,
    nothing is left but the failure. -/
inductive Arrival
  | line (bytes : Bytes)
  | interrupt
  | failed (cause : SystemError)

/-- Input cut behind each line feed. -/
def linesOf (input : Bytes) : List Arrival := (cutAfter (· == 10) input).map .line

/-- The lines of input that have their line feed. -/
def fullLines (input : Bytes) : List Bytes :=
  (cutAfter (· == 10) input).filter fun line => line.getLast? == some 10

/-- The input of a session during which, at the prompt of this number, an interrupt comes
    instead of a line; what has no line feed by then is no line. -/
def linesBefore (prompts : Nat) (input : Bytes) : List Arrival :=
  ((fullLines input).take (prompts - 1)).map .line ++ [.interrupt]

/-- The input of a session that fails behind these bytes. -/
def linesUntil (cause : SystemError) (input : Bytes) : List Arrival :=
  (fullLines input).map .line ++ [.failed cause]

/-- What a session begins with. -/
def banner : String :=
  "LEZ Access Checker\n" ++
  "Ask whether a vehicle may enter a low-emission zone.\n" ++
  "Example: can my 2010 low income diesel van from e15 enter sw1a"

/-- What asks for a line. -/
def prompt : String := "Your query (or type 'exit'): "

/-- What follows the report of a bad setup. -/
def setupHint : String :=
  "Check that the inference engine is installed and that the rule base and grammar " ++
  "paths are correct."

/-- What answers a line without words. -/
def emptyQueryNotice : String := "Please enter a valid query"

/-- What a session ends with. -/
def farewell : String := "Goodbye!"

/-- The error of a line that is no text. -/
def undecodable : SystemError := .other "stream did not contain valid UTF-8"

/-- Whether a line, trimmed, ends the session: `exit`, in letters of any case. -/
def isExit (line : List Char) : Bool := line.map Char.toLower == "exit".toList

/-- Reports what a question came to. -/
def report (o : Outcome) : Act σ Unit :=
  match o with
  | .success answer => Act.say (answer ++ "\n\n")
  | other => Act.warn ("Warning: " ++ other.message ++ "\n\n")

/-- Says farewell; the session was a success. -/
def finish : Act σ ExitStatus := do
  Act.say (farewell ++ "\n")
  return .success

/-- Says farewell on a line of its own. -/
def finishOnNewLine : Act σ ExitStatus := do
  Act.say "\n"
  finish

/-- Asks for lines and answers them. -/
def answerLines (p : Pipeline) (e : Engine σ) : List Arrival → Act σ ExitStatus
  | [] => do
    if (← Act.interrupts).raised then finish
    else
      Act.say prompt
      finishOnNewLine
  | arrival :: rest => do
    if (← Act.interrupts).raised then finish
    else
      Act.say prompt
      match arrival with
      | .interrupt =>
        Act.atDesk fun d => ((), d.interrupt)
        finishOnNewLine
      | .failed cause => throw (.readInput cause)
      | .line bytes =>
        match Utf8.decode? bytes with
        | none => throw (.readInput undecodable)
        | some line =>
          let question := Text.trim line
          if question = "" then answerLines p e rest
          else if isExit question.toList then finish
          else if Question.tokens question = [] then
            Act.say (emptyQueryNotice ++ "\n")
            answerLines p e rest
          else
            let outcome ← Act.whileBusy (p.ask e question)
            -- An interrupt while the question was asked drops its outcome.
            if (← Act.interrupts).raised then finishOnNewLine
            else
              report outcome
              answerLines p e rest

/-- A session on some input. -/
def run (p : Pipeline) (fs : FileSystem) (e : Engine σ) (input : List Arrival) :
    Act σ ExitStatus := do
  Act.say (banner ++ "\n\n")
  let setup ← Act.whileBusy (p.checkSetup fs e)
  match setup with
  | .success summary =>
    Act.say ("Engine ready: " ++ summary ++ "\n\n")
    Act.atDesk fun d => ((), { d with interrupts := d.interrupts.enterSession })
    answerLines p e input
  | other =>
    Act.warn ("Setup error: " ++ other.message ++ "\n")
    Act.warn (setupHint ++ "\n")
    return .failure

end ZoneAccess.Session

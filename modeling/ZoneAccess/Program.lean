import ZoneAccess.Arguments.Split
import ZoneAccess.Child.System
import ZoneAccess.Render
import ZoneAccess.Session
import ZoneAccess.Settings.LogFilter

namespace ZoneAccess.Program

/-!
# The program

* `prepare` — what a command line asks for, and the settings it is to be done with;
* `pipelineOf` — the question pipeline of some settings;
* `readsInput` — whether there is to be a session;
* `execute` — does what is asked for: a setup check, a question behind a setup check, or a
  session;
* `Host` — what a run finds outside: files, environment, input, an engine for the
  settings, and whether log records are kept; `Host.ofSystem` has an engine that is run as
  child processes, within the limits of the settings;
* `run` — a whole run: how it ends, what was written and what was invoked.
-/

variable {σ : Type}

/-- The request of a command line and the settings for it; a mistake in the request comes
    before one in the settings. -/
def prepare (args : List Bytes) (around : Surroundings) :
    Except RunError (Request × Settings) :=
  match Request.parse (Arguments.commandArguments args) with
  | .error e => .error (.usage e)
  | .ok request =>
    match Settings.load (Arguments.split args).settings around with
    | .error faults => .error (.settings faults)
    | .ok settings => .ok (request, settings)

/-- The pipeline of some settings, if they name an entry predicate that can be one. -/
def pipelineOf (s : Settings) (directory : Bytes) : Except RunError Pipeline :=
  match Predicate.ofName s.entryPredicate with
  | .error e => .error (.entryPredicate e)
  | .ok predicate =>
    .ok {
      predicate
      program := s.engineExecutable
      resources := .resolve directory (Utf8.encode s.ruleBasePath) (Utf8.encode s.grammarPath) }

/-- Whether a command line asks for a session, so that its run reads input. -/
def readsInput (args : List Bytes) : Bool :=
  match Request.parse (Arguments.commandArguments args) with
  | .ok request => !request.check && request.question?.isNone
  | .error _ => false

/-- Does what is asked for. -/
def execute (r : Request) (p : Pipeline) (fs : FileSystem) (e : Engine σ)
    (input : List Session.Arrival) : Act σ ExitStatus := do
  if r.check then
    let setup ← Act.whileBusy (p.checkSetup fs e)
    setup.write r.format
    return setup.exitStatus
  else match r.question? with
    | none => Session.run p fs e input
    | some question =>
      let setup ← Act.whileBusy (p.checkSetup fs e)
      if setup.isSuccess then
        let answer ← Act.whileBusy (p.ask e question)
        answer.write r.format
        return answer.exitStatus
      else
        setup.write r.format
        return .failure

/-- What a run finds outside. -/
structure Host (σ : Type) where
  around : Surroundings
  input : List Session.Arrival
  engine : Settings → Engine σ
  /-- Whether log records are kept, so that the filter for them has to be well formed. -/
  logs : Bool

/-- What a run finds outside whose engine is run as child processes of a system. -/
def Host.ofSystem (s : Child.System σ) (around : Surroundings) (input : List Session.Arrival)
    (logs : Bool) : Host (Child.Supervisor σ) where
  around
  input
  engine settings := s.engine (.ofSettings settings)
  logs

/-- Everything up to the end or the first error. The handler for interrupts and the keeper of
    log records, which the system gives a run before it has a pipeline, are taken to be
    given. -/
def body (args : List Bytes) (h : Host σ) : Act σ ExitStatus := do
  let (request, settings) ← prepare args h.around
  if h.logs && !LogFilter.isValid settings.logFilter then
    throw (.logFilter settings.logFilter)
  let pipeline ← pipelineOf settings h.around.directory
  execute request pipeline h.around.files (h.engine settings) h.input

/-- What a run comes to: how it ends, the error that ended it early, and the console. -/
structure Run (σ : Type) where
  exit : ExitStatus
  error : Option RunError
  console : Console σ

/-- Says what ended a run early; a failure to say it changes nothing. -/
def finish (result : Except RunError ExitStatus) (c : Console σ) : Run σ :=
  match result with
  | .ok exit => ⟨exit, none, c⟩
  | .error e =>
    if e.isInformational then
      ⟨.success, some e, { c with out := (c.out.put (Utf8.encode e.message)).2 }⟩
    else
      ⟨.failure, some e, { c with err := (c.err.put (Utf8.encode (e.message ++ "\n"))).2 }⟩

/-- A run with a command line, which starts with the program name, from a console. -/
def run (args : List Bytes) (h : Host σ) (c : Console σ) : Run σ :=
  let (result, c) := (body args h).perform c
  finish result c

end ZoneAccess.Program

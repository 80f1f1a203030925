import ZoneAccess.Engine.Desk
import ZoneAccess.Engine.Verdict
import ZoneAccess.FileSystem

namespace ZoneAccess

/-!
# The question pipeline

* `Pipeline` — the entry predicate, the engine's program and the resources it loads;
* `Pipeline.checkSetup` — four tests in this order, up to the first that fails: the engine
  says its version, the rule base is there, the grammar is there, the engine loads both;
* `Pipeline.ask` — a question sent to the engine, each in a run of its own; a question
  without words is not sent.

The tests are split into what is done (`checkSetup`) and what is made of it
(`versionFrom`, `verifyResource`, `confirmLoad`), which needs no engine.
-/

/-- All that is fixed about the questions of one program run. -/
structure Pipeline where
  predicate : Predicate
  program : String
  resources : Resources

namespace Pipeline

variable {σ : Type}

/-- The version that an engine reported, or the message that it did not. -/
def versionFrom (program : String) : Except EngineError Report → Except String String
  | .error (.notFound _) =>
    .error ("inference engine executable '" ++ program ++
      "' was not found; install it or point engine_executable at it")
  | .error e => .error e.message
  | .ok r =>
    if r.termination.exitStatus? = some 0 then
      match Text.firstFullLine? r.stdout with
      | some version => .ok version
      | none => .error ("inference engine '" ++ program ++ "' did not report a version")
    else .error ("'" ++ program ++ " --version' failed: " ++ (r.verdict .setup).message)

/-- Whether a resource is a file that can be opened, or the message that it is not. -/
def verifyResource (fs : FileSystem) (label : String) (path : Bytes) : Except String Unit :=
  -- A stored path starts at the root, unless it is empty.
  match fs.look [Path.slash] path with
  | .error _ => .error (label ++ " not found at " ++ Path.shown path)
  | .ok (_, .file entry) =>
    match entry.refusal with
    | none => .ok ()
    | some cause =>
      .error (label ++ " at " ++ Path.shown path ++ " is not readable: " ++ cause.message)
  | .ok _ => .error (label ++ " at " ++ Path.shown path ++ " is not a file")

/-- Whether the probe confirmed that both files were loaded, or the message that it did
    not. -/
def confirmLoad : Except EngineError Report → Except String Unit
  | .error e => .error e.message
  | .ok r =>
    match r.verdict .setup with
    | .success output =>
      if Text.occursIn Directive.sentinel output then .ok ()
      else if output = "" then
        .error "trial load produced no output; the engine did not confirm both files loaded"
      else
        .error ("trial load did not confirm both files loaded; engine printed: " ++ output)
    | failure => .error ("failed to load rule base and grammar: " ++ failure.message)

/-- Tests the setup: what it comes to, and the desk after it. -/
def checkSetup (p : Pipeline) (fs : FileSystem) (e : Engine σ) (d : Desk σ) :
    Outcome × Desk σ :=
  let (probed, d) := d.launch e (.version p.program)
  match versionFrom p.program probed with
  | .error m => (.setupError m, d)
  | .ok version =>
    match verifyResource fs "rule base" p.resources.ruleBase with
    | .error m => (.setupError m, d)
    | .ok () =>
      match verifyResource fs "grammar" p.resources.grammar with
      | .error m => (.setupError m, d)
      | .ok () =>
        let (loaded, d) := d.launch e (.directive p.program (Directive.probe p.resources))
        match confirmLoad loaded with
        | .error m => (.setupError m, d)
        | .ok () => (.success (version ++ "; rule base and grammar loaded"), d)

/-- The outcome of a question without words. -/
def noUsableQuery : String := "no usable query: the input contained no words"

/-- What the result of a query comes to. -/
def answerFrom : Except EngineError Report → Outcome
  | .ok r => r.verdict .query
  | .error e => .runtimeError e.message

/-- Sends one query to the engine. -/
def invoke (p : Pipeline) (e : Engine σ) (q : Query) (d : Desk σ) :
    Except EngineError Report × Desk σ :=
  d.launch e (.directive p.program (Directive.query p.resources q))

/-- Asks a question: what it comes to, and the desk after it. -/
def ask (p : Pipeline) (e : Engine σ) (question : String) (d : Desk σ) : Outcome × Desk σ :=
  match Query.ofQuestion p.predicate question with
  | .error .noTokens => (.runtimeError noUsableQuery, d)
  | .error problem => (.runtimeError problem.message, d)
  | .ok q =>
    let (result, d) := p.invoke e q d
    (answerFrom result, d)

end Pipeline

end ZoneAccess

import ZoneAccess.Engine.Invocation
import ZoneAccess.Text.Utf8

namespace ZoneAccess.Child

/-!
# Running a child process

How an engine runs as a child process, as a function of what the operating system answers.

* `Poll`, `Collected`, `Answers` — the answers of the system: to the start of the child, to
  each look at it, and to the collecting of its two streams;
* `Read`, `Collected.ofReads` — the answers to the reads of a stream, and what becomes of the
  stream: its reader hands over everything that it has read up to the end, or nothing;
* `Limits` — the time limit, and whether an interrupt ends the run;
* `Call` — what the system is asked for, in order;
* `await` — looks at the child until it has exited, an interrupt is up or the time is over,
  the first of these in this order if several come together;
* `run` — a whole run: its result, the calls it made, and whether the child was reaped. The
  group of the child is killed when the wait is over, and once more when everything is
  done, whichever way.
-/

/-- How a child ended: with an exit status, or without one, then perhaps by a signal. -/
inductive ChildStatus
  | exited (status : Int)
  | ended (signal : Option Int)
  deriving DecidableEq

/-- The termination that the end of a child is. -/
def ChildStatus.termination : ChildStatus → Termination
  | exited status => .exited status
  | ended signal => .signalled signal

/-- One look at the child: its status if it has ended, or that the look failed; whether an
    interrupt is up; and how long the child has been running. -/
structure Poll where
  status : Except SystemError (Option ChildStatus)
  raised : Bool
  elapsed : Duration

/-- What became of a stream: its bytes up to the end, an error, no end in time, or no
    reader any more. -/
inductive Collected
  | bytes (bs : Bytes)
  | failed (cause : SystemError)
  | expired
  | vanished

/-- What a read of a stream comes to: bytes, nothing yet so that it is made again, the end of the
    stream, or an error; or the reader breaks down. -/
inductive Read
  | bytes (bs : Bytes)
  | again
  | done
  | failed (cause : SystemError)
  | broken

/-- What becomes of a stream of which so much has been read, if these are the reads that come in
    time. -/
def Collected.ofReads (got : Bytes) : List Read → Collected
  | [] => .expired
  | .bytes bs :: reads => ofReads (got ++ bs) reads
  | .again :: reads => ofReads got reads
  | .done :: _ => .bytes got
  | .failed cause :: _ => .failed cause
  | .broken :: _ => .vanished

/-- The answers of the system to one run. The polls are those that are made if nothing ends
    the wait. -/
structure Answers where
  start : Except SystemError Unit
  polls : List Poll
  stdout : Collected
  stderr : Collected

/-- What ends a run from the side of the program. -/
structure Limits where
  timeout : Option Duration
  interruptible : Bool

/-- What the system is asked for. A poll that finds the child ended reaps it. -/
inductive Call
  | start
  | poll (ended : Bool)
  | killGroup
  | killChild
  | reap
  deriving DecidableEq

/-- A child that is looked after: whether it was reaped, and the calls so far. -/
structure Guard where
  reaped : Bool
  calls : List Call

namespace Guard

/-- Looks at the child. -/
def look (g : Guard) (status : Except SystemError (Option ChildStatus)) : Guard :=
  match status with
  | .ok (some _) => ⟨true, g.calls ++ [.poll true]⟩
  | _ => { g with calls := g.calls ++ [.poll false] }

/-- Kills the group of the child, then the child itself and reaps it, unless that is
    done. -/
def terminate (g : Guard) : Guard :=
  if g.reaped then { g with calls := g.calls ++ [.killGroup] }
  else ⟨true, g.calls ++ [.killGroup, .killChild, .reap]⟩

end Guard

/-- Whether the time is over. -/
def timeIsOver (timeout elapsed : Duration) : Bool := timeout.toNanos ≤ elapsed.toNanos

/-- Why to stop waiting at a poll that finds the child still running. -/
def Limits.stop? (l : Limits) (p : Poll) : Option Termination :=
  -- An interrupt goes before the time limit.
  if l.interruptible && p.raised then some .interrupted
  else match l.timeout with
    | some timeout => if timeIsOver timeout p.elapsed then some (.timedOut timeout) else none
    | none => none

/-- Waits for the child. Nothing comes back if the polls are over before the wait is. -/
def await (program : String) (l : Limits) (g : Guard) :
    List Poll → Option (Except EngineError Termination × Guard)
  | [] => none
  | p :: ps =>
    let g := g.look p.status
    match p.status with
    | .error cause => some (.error (.lost program cause), g)
    | .ok (some status) => some (.ok status.termination, g)
    | .ok none =>
      match l.stop? p with
      | some termination => some (.ok termination, g.terminate)
      | none => await program l g ps

/-- The text of a stream: everything in it, or nothing if it had no end in time. -/
def Collected.text (program : String) : Collected → Except EngineError String
  | bytes bs => .ok (Utf8.decodeLossy bs)
  | failed cause => .error (.lost program cause)
  | expired => .ok ""
  | vanished => .error (.lost program (.other "output reader panicked"))

/-- What a run comes to. -/
structure RunResult where
  result : Except EngineError Report
  guard : Guard

/-- The report of a child that ended, from its streams. -/
def report (program : String) (termination : Termination) (a : Answers) :
    Except EngineError Report := do
  let stdout ← a.stdout.text program
  let stderr ← a.stderr.text program
  return ⟨termination, stdout, stderr⟩

/-- A run of a program. Nothing comes back if the polls are over before the wait is. -/
def run (program : String) (l : Limits) (a : Answers) : Option RunResult :=
  match a.start with
  | .error cause => some ⟨.error (.ofStart program cause), ⟨false, [.start]⟩⟩
  | .ok () =>
    match await program l ⟨false, [.start]⟩ a.polls with
    | none => none
    | some (.error e, g) => some ⟨.error e, g.terminate⟩
    | some (.ok termination, g) =>
      -- The child is terminated once the wait is over, and again when it is given up.
      some ⟨report program termination a, g.terminate.terminate⟩

end ZoneAccess.Child

import ZoneAccess.Child.Programs
import ZoneAccess.Child.System

namespace ZoneAccess.Child

/-!
# Rehearsed engines

An engine program whose runs are laid down in advance, and the system that starts it.

* `Part` — what one run does: it writes, may leave others behind that hold its streams
  open, may send an interrupt, and then ends or hangs;
* `Part.answers` — the answers of the system to a run that plays a part: the child is
  running when it is first looked at, and done at the second look;
* `Rehearsal` — the parts to come, and the arguments of the runs so far;
* `Rehearsal.system` — the system whose runs play them.
-/

/-- How a run of the rehearsed program ends. -/
inductive Close
  | exits (status : Int)
  | dies (signal : Int)
  | hangs
  deriving DecidableEq

/-- What one run does. -/
structure Part where
  stdout : Bytes
  stderr : Bytes
  /-- Others hold the streams open longer than anyone waits. -/
  holdsStdout : Bool
  holdsStderr : Bool
  /-- The run sends an interrupt to the program. -/
  interrupts : Bool
  close : Close

namespace Part

/-- A run behind the end of the rehearsal. -/
def exhausted : Part :=
  ⟨[], Utf8.encode "script exhausted\n", false, false, false, .exits 97⟩

/-- How the child has ended at the second look. Of an exit status the system keeps the last
    eight bits. -/
def childStatus? (p : Part) : Option ChildStatus :=
  match p.close with
  | .exits status => some (.exited (status % 256))
  | .dies signal => some (.ended (some signal))
  | .hangs => none

/-- The time between two looks at the child. -/
def interval : Duration := .ofMillis 20

/-- The reads of a stream on which bytes are written; `held` says that others hold it open. -/
def reads (bs : Bytes) (held : Bool) : List Read := .bytes bs :: if held then [] else [.done]

/-- The answers of the system to a run that plays a part; `raised` says that an interrupt
    was up before. A run that hangs is looked at again when its time is over. -/
def answers (p : Part) (raised : Bool) (l : Limits) : Answers where
  start := .ok ()
  polls :=
    let up := raised || p.interrupts
    [⟨.ok none, raised, .ofNanos 0⟩, ⟨.ok p.childStatus?, up, interval⟩] ++
      l.timeout.toList.map fun timeout => ⟨.ok none, up, timeout⟩
  stdout := .ofReads [] (reads p.stdout p.holdsStdout)
  stderr := .ofReads [] (reads p.stderr p.holdsStderr)

end Part

/-- The parts to come, and the arguments of the runs so far. -/
structure Rehearsal where
  parts : List Part
  seen : List (List String)

/-- Where the engine program is, and what surrounds it. -/
structure Venue where
  files : FileSystem
  directory : Bytes
  «variables» : Variables
  /-- The file of the rehearsed program. -/
  program : List Bytes

namespace Rehearsal

/-- The system on which the program plays a rehearsal. A program that it does not start plays
    no part. -/
def system (v : Venue) : System Rehearsal where
  turn i l raised r :=
    match start v.files v.directory v.variables (· == v.program) i.program i.args with
    | .error cause => (⟨false, .refused cause⟩, r)
    | .ok program =>
      let (part, parts) := match r.parts with
        | [] => (Part.exhausted, [])
        | part :: parts => (part, parts)
      (⟨part.interrupts, part.answers raised l⟩,
        ⟨parts, r.seen ++ [program.front.map Utf8.decodeLossy ++ i.args]⟩)

end Rehearsal

end ZoneAccess.Child

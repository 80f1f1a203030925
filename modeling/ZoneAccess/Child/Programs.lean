import ZoneAccess.FileSystem
import ZoneAccess.Child.InterpreterLine
import ZoneAccess.Settings.Variables

namespace ZoneAccess.Child

/-!
# Programs

* `Started` — a program for the machine, with the arguments that it gets in front of those
  of the invocation;
* `programAt` — the program that the file at a path starts: the file itself, or the one that
  interprets it, perhaps over several files;
* `findProgram` — the program of a name: a name with a slash is a path, any other is looked
  for in the directories of `PATH`, of which those with an overlong name do not count;
* `start` — the program of an invocation, or why the system does not start it.
-/

/-- The longest argument that the system takes, in bytes. -/
def maxArgument : Nat := 131071

/-- A program for the machine, by its place, with the arguments that it gets in front of
    those of the invocation. -/
structure Started where
  place : List Bytes
  front : List Bytes
  deriving DecidableEq

/-- The executable file at a path. -/
def executableAt (fs : FileSystem) (cwd path : Bytes) :
    Except SystemError (List Bytes × FileEntry) :=
  match fs.look cwd path with
  | .error e => .error e
  | .ok (place, .file entry) => if entry.executable then .ok (place, entry) else .error .denied
  | .ok _ => .error .denied

/-- The executable file that interprets others. An empty name stands for the working
    directory, which is none. -/
def interpreterAt (fs : FileSystem) (cwd name : Bytes) :
    Except SystemError (List Bytes × FileEntry) :=
  if name = [] then .error .denied else executableAt fs cwd name

/-- The program that an executable file starts; `known` tells programs for the machine. Any
    other file needs an interpreter, which gets its argument and the path of the file, and
    may need one in turn; the number bounds how many files there are. -/
def interpret (fs : FileSystem) (cwd : Bytes) (known : List Bytes → Bool) :
    Nat → Bytes → List Bytes → FileEntry → List Bytes → Except SystemError Started
  | 0, _, _, _, _ => .error .loop
  | n + 1, path, place, entry, front =>
    if known place then .ok ⟨place, front⟩
    else match InterpreterLine.ofContent? entry.content with
      | none => .error .notRunnable
      | some line =>
        match interpreterAt fs cwd line.interpreter with
        | .error e => .error e
        | .ok (place, entry) =>
          -- The interpreter gets the path of the file as it was written, not its place.
          interpret fs cwd known n line.interpreter place entry
            (line.argument.toList ++ path :: front)

/-- The number of files that may lead to a program, that of the program included. -/
def maxFiles : Nat := 6

/-- The program that the file at a path starts. -/
def programAt (fs : FileSystem) (cwd : Bytes) (known : List Bytes → Bool) (path : Bytes) :
    Except SystemError Started :=
  match executableAt fs cwd path with
  | .error e => .error e
  | .ok (place, entry) => interpret fs cwd known maxFiles path place entry []

/-- The first program of a name in some directories, an empty name being that of the working
    directory. A file that is missing or must not be run is passed over. If none is left,
    the last refusal counts, unless an earlier file must not be run. -/
def searchPath (fs : FileSystem) (cwd : Bytes) (known : List Bytes → Bool) (name : Bytes)
    (refusal : SystemError) : List Bytes → Except SystemError Started
  | [] => .error refusal
  | directory :: rest =>
    match programAt fs cwd known
        (if directory = [] then name else directory ++ Path.slash :: name) with
    | .ok program => .ok program
    | .error e =>
      if e = .denied || e = .notFound || e = .notDirectory then
        searchPath fs cwd known name (if refusal = .denied then refusal else e) rest
      else .error e

/-- The longest name of a directory in `PATH` that counts, in bytes. -/
def maxDirectory : Nat := 4095

/-- The directories that count, of those in `PATH`. In place of one with an overlong name
    stands the working directory, unless it is the last. -/
def searched : List Bytes → List Bytes
  | [] => []
  | [directory] => if maxDirectory < directory.length then [] else [directory]
  | directory :: rest =>
    (if maxDirectory < directory.length then [] else directory) :: searched rest

/-- The program of a name. -/
def findProgram (fs : FileSystem) (cwd : Bytes) (vars : Variables)
    (known : List Bytes → Bool) (name : Bytes) : Except SystemError Started :=
  if name = [] then .error .notFound
  else if name.contains Path.slash then programAt fs cwd known name
  else if 255 < name.length then .error .nameTooLong
  else
    let directories := match vars.find? "PATH" with
      | some path => searched (cut (· == 58) path)
      | none => []
    searchPath fs cwd known name .notFound directories

/-- The program of an invocation, if the system starts it. -/
def start (fs : FileSystem) (cwd : Bytes) (vars : Variables) (known : List Bytes → Bool)
    (program : String) (args : List String) : Except SystemError Started :=
  -- What no program can be given is refused before one is looked for.
  if (program :: args).any fun s => (Utf8.encode s).contains 0 then
    .error (.other "nul byte found in provided data")
  else if (program :: args).any fun s => maxArgument < (Utf8.encode s).length then
    .error (.code 7)
  else findProgram fs cwd vars known (Utf8.encode program)

end ZoneAccess.Child

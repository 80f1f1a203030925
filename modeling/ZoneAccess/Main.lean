import ZoneAccess.Program

/-!
# The command line

The outermost layer: it reads what surrounds a run of the program, lets `Program.run` decide
everything, and writes what came of it. Of the files it takes a picture beforehand, of
those that a run can ask for. It has no means to start another program, and says so to
whoever wants the engine.
-/

namespace ZoneAccess.Outer

/-- A system that starts no other program. -/
def noChildren : Child.System Unit where
  turn _ _ _ state := (⟨false, .refused (.code 95)⟩, state)

/-- What stands at a path. -/
def nodeAt (path : String) : IO (Option Node) := do
  try
    let content ← IO.FS.readBinFile path
    return some (.file ⟨content.toList, false, none⟩)
  catch
    | .inappropriateType .. => return some .directory
    | .permissionDenied .. => return some (.file ⟨[], false, some .denied⟩)
    | _ => return none

/-- A picture with what stands at one more path, seen from a directory. -/
def withPath (directory : Bytes) (fs : FileSystem) (path : Bytes) : IO FileSystem := do
  let path := Path.absolute directory path
  match Utf8.decode? path with
  | none => return fs
  | some name =>
    match ← nodeAt name with
    | none => return fs
    | some node => return fs.add path node

/-- A picture with the file that a settings file extends, and so on. -/
def withBases (directory : Bytes) : Nat → FileSystem → Bytes → IO FileSystem
  | 0, fs, _ => return fs
  | n + 1, fs, path => do
    let fs ← withPath directory fs path
    match fs.look directory path with
    | .ok (place, .file entry) =>
      match SettingsFile.read place entry.content with
      | .ok (_, some base) =>
        withBases directory n fs (Path.join (SettingsFile.pathOf place.dropLast) base)
      | _ => return fs
    | _ => return fs

/-- The variables that are set, as the system shows them to a process. -/
def environment : IO Variables := do
  try
    let block ← IO.FS.readBinFile "/proc/self/environ"
    return .ofBlock block.toList
  catch
    | _ => return []

/-- What surrounds a run with a command line. -/
def surroundings (args : List Bytes) : IO Surroundings := do
  let directory := Utf8.encode (← IO.currentDir).toString
  let vars ← environment
  let explicit := match Settings.grammar.read ((Arguments.split args).settings.drop 1) with
    | .ok given => (Settings.CommandLine.ofGiven given).configPath
    | .error _ => none
  let mut fs : FileSystem := ⟨[]⟩
  for candidate in SettingsFile.candidates directory explicit vars do
    fs ← withPath directory fs (Path.parent candidate.path)
    fs ← withBases directory 32 fs candidate.path
  -- The files that are checked are known only from the settings.
  if let .ok (_, settings) := Program.prepare args ⟨fs, directory, vars⟩ then
    fs ← withPath directory fs (Utf8.encode settings.ruleBasePath)
    fs ← withPath directory fs (Utf8.encode settings.grammarPath)
  return ⟨fs, directory, vars⟩

/-- Writes bytes. -/
def writeBytes (stream : IO.FS.Stream) (bs : Bytes) : IO Unit := do
  stream.write ⟨bs.toArray⟩
  stream.flush

/-- Why a read failed. -/
def causeOf : IO.Error → SystemError
  | .inappropriateType _ number _ | .hardwareFault number _ => .code number.toNat
  | problem => .other problem.toString

/-- What comes from a stream, up to its end or to a failure. -/
partial def readAll (stream : IO.FS.Stream) (before : ByteArray) : IO (List Session.Arrival) := do
  match ← (stream.read 4096).toBaseIO with
  | .error problem => return Session.linesUntil (causeOf problem) before.toList
  | .ok chunk =>
    if chunk.isEmpty then return Session.linesOf before.toList
    else readAll stream (before ++ chunk)

/-- Runs the program with the arguments behind its name. -/
def runProgram (arguments : List String) : IO UInt32 := do
  let args := ("lez" :: arguments).map Utf8.encode
  let around ← surroundings args
  let input ← if Program.readsInput args then
      readAll (← IO.getStdin) ByteArray.empty
    else pure []
  let host : Program.Host (Child.Supervisor Unit) := .ofSystem noChildren around input true
  let run := Program.run args host ⟨.fresh (.fresh ()), .empty none, .empty none⟩
  writeBytes (← IO.getStdout) run.console.out.stored
  writeBytes (← IO.getStderr) run.console.err.stored
  return match run.exit with
    | .success => 0
    | .failure => 1

end ZoneAccess.Outer

/-- Runs the program. -/
def main (arguments : List String) : IO UInt32 := ZoneAccess.Outer.runProgram arguments

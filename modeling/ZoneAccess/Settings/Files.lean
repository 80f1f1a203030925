import ZoneAccess.FileSystem
import ZoneAccess.Settings.Toml
import ZoneAccess.Settings.Variables

namespace ZoneAccess.SettingsFile

/-!
# Settings files

* `candidates` — where a settings file may be: at the path that the command line gives,
  which must then lead to one, at the path that the environment gives, in the usual
  directories, and in the working directory;
* `contents` — what is in the file at a path, seen from the directory that holds it;
* `load` — the layer of a file on top of the file that it extends, and so on. Undecodable
  parts of a path are replaced where the file is read, but the path as it is has to lead
  somewhere too;
* `discover` — the first candidate that loads, and the faults that count.
-/

/-- Why a settings file is of no use. One that is too new has only a newer edition of its
    language to go by. -/
inductive Fault
  | unusable
  | tooNew
  | cyclic
  deriving DecidableEq

/-! ### One file -/

/-- What a file in a known place sets, and the path of the file it extends, if any. Only
    documents in TOML are understood. -/
def read (place : List Bytes) (content : Bytes) : Except Fault (Layer × Option Bytes) :=
  let extension := ((Path.extension? (place.getLast?.getD [])).map Utf8.decodeLossy).getD ""
  if ["json", "json5", "yaml", "yml"].contains (extension.map Char.toLower) then .error .unusable
  else match Utf8.decode? content with
    | none => .error .unusable
    | some text =>
      -- What only the newer edition understands is told apart from what neither does.
      match Toml.entries? .newest text, Toml.entries? .older text with
      | none, _ => .error .unusable
      | some _, none => .error .tooNew
      | some _, some entries =>
        match entries.lookup "extends" with
        | none => .ok (Layer.ofEntries entries, none)
        | some (.text base) =>
          if base = "" then .error .unusable
          else .ok (Layer.ofEntries entries, some (Utf8.encode base))
        | some _ => .error .unusable

/-- An absolute path of components. -/
def pathOf (place : List Bytes) : Bytes := place.foldl Path.push [Path.slash]

/-- A path as it is when its undecodable parts are replaced. -/
def legible (path : Bytes) : Bytes := Utf8.encode (Path.shown path)

/-- What is in the file of a legible path, or nothing if there is none. The path has to end
    in a name. The directory that holds the name may be missing; from there the way may not
    lead out of it again. -/
def contents (fs : FileSystem) (cwd path : Bytes) : Except Fault (Option Bytes) :=
  match (Path.names path).getLast? with
  | none => .error .unusable
  | some name =>
    if name = FileSystem.up then .error .unusable
    else match fs.look cwd (Path.parent path) with
      -- A file in a directory that is missing is missing.
      | .error e => if e = .notFound then .ok none else .error .unusable
      | .ok (place, .directory) =>
        match fs.lookWithin place name with
        | .error e => if e = .notFound then .ok none else .error .unusable
        | .ok (_, .file entry) =>
          if entry.refusal.isSome then .error .unusable else .ok (some entry.content)
        | .ok (_, .device) => .ok (some [])
        | .ok _ => .error .unusable
      | .ok _ => .error .unusable

/-- The path of the file that another one extends, seen from the directory of that one: it
    has to lead to a regular file. -/
def basePath? (fs : FileSystem) (cwd : Bytes) (directory : List Bytes) (base : Bytes) :
    Option Bytes :=
  match fs.look cwd (Path.join (pathOf directory) base) with
  | .ok (place, .file _) => some (pathOf place)
  | _ => none

/-- The layer of the file at a path, above those of the files it extends, or nothing if there
    is none. The file is read by its legible path, while its place, and with it the place of
    what it extends, is where the path itself leads. No file may extend itself, directly or
    through the others in `above`; the number bounds how many there are. -/
def loadFrom (fs : FileSystem) (cwd : Bytes) :
    Nat → List (List Bytes) → Bytes → Except Fault (Option Layer)
  | 0, _, _ => .error .cyclic
  | n + 1, above, path =>
    match contents fs cwd (legible path), fs.look cwd path with
    | .error e, _ => .error e
    | .ok none, _ => .ok none
    | .ok (some _), .error _ => .error .unusable
    | .ok (some content), .ok (place, _) =>
      if above.contains place then .error .cyclic
      else match read place content with
        | .error e => .error e
        | .ok (layer, none) => .ok (some layer)
        | .ok (layer, some base) =>
          match basePath? fs cwd place.dropLast base with
          | none => .error .unusable
          | some path =>
            match loadFrom fs cwd n (place :: above) path with
            | .error e => .error e
            | .ok none => .error .unusable
            | .ok (some lower) => .ok (some (layer.above lower))

/-- The layer of the file at a path, or nothing if there is none. -/
def load (fs : FileSystem) (cwd path : Bytes) : Except Fault (Option Layer) :=
  loadFrom fs cwd (fs.entries.length + 1) [] path

/-! ### Looking for a file -/

/-- The two names that a settings file may have under a directory for settings. -/
def underDirectory (directory : Bytes) : List Bytes :=
  [Path.push (Path.push directory (Utf8.encode "lez")) (Utf8.encode "config.toml"),
    Path.push directory (Utf8.encode ".lez.toml")]

/-- The optional places of a settings file, best first. -/
def places (cwd : Bytes) (vars : Variables) : List Bytes :=
  let given := ((vars.find? "LEZ_CONFIG_PATH").filter (· != [])).toList
  let shared := match vars.find? "XDG_CONFIG_DIRS" with
    | none => [Utf8.encode "/etc/xdg"]
    | some dirs => (cut (· == 58) dirs).filter (· != [])
  let home := (vars.find? "HOME").toList
  given ++
    ((vars.find? "XDG_CONFIG_HOME").toList ++ shared ++ (vars.find? "APPDATA").toList ++
      (vars.find? "LOCALAPPDATA").toList ++
      home.map fun d => Path.push d (Utf8.encode ".config")).flatMap underDirectory ++
    (home ++ [cwd]).map fun d => Path.push d (Utf8.encode ".lez.toml")

/-- A candidate for the settings file, and whether a file has to be there. -/
structure Candidate where
  path : Bytes
  required : Bool

/-- The candidates, of those with one legible path only the first. -/
def candidates (cwd : Bytes) (explicit : Option Bytes) (vars : Variables) : List Candidate :=
  let places := (places cwd vars).eraseDupsBy fun p q => legible p == legible q
  explicit.toList.map (⟨·, true⟩) ++
    (places.filter fun p => explicit.all fun e => legible p != legible e).map (⟨·, false⟩)

/-- What a search came to: the layer of the file that was found, the faults of required
    files, and those of others. -/
structure Search where
  found : Option Layer
  required : List Fault
  optional : List Fault

/-- Tries candidates up to the first that loads. -/
def search (fs : FileSystem) (cwd : Bytes) : List Candidate → Search
  | [] => ⟨none, [], []⟩
  | c :: cs =>
    match load fs cwd c.path with
    | .ok (some layer) => ⟨some layer, [], []⟩
    | .ok none =>
      let rest := search fs cwd cs
      if c.required then { rest with required := .unusable :: rest.required } else rest
    | .error fault =>
      let rest := search fs cwd cs
      if c.required then { rest with required := fault :: rest.required }
      else { rest with optional := fault :: rest.optional }

/-- The layer of the settings file, which sets nothing if there is none, and the faults
    that count: those of optional files only if no file was found. -/
def discover (fs : FileSystem) (cwd : Bytes) (explicit : Option Bytes) (vars : Variables) :
    Layer × List Fault :=
  let s := search fs cwd (candidates cwd explicit vars)
  match s.found with
  | some layer => (layer, s.required)
  | none => (.empty, s.required ++ s.optional)

end ZoneAccess.SettingsFile

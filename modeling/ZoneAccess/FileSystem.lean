import ZoneAccess.Path
import ZoneAccess.SystemError

namespace ZoneAccess

/-!
# Files

The part of the file system that matters, as a value that does not change.

* `FileSystem` — what stands at which absolute path; directories above an entry need no
  entry of their own;
* `FileSystem.look` — what a path leads to: links are followed, `..` goes up from where the
  links have led, everything on the way has to be a directory, and a slash at the end of a
  path or of a link demands one;
* `FileSystem.lookWithin` — the same for a name in a directory that may not be left;
* `FileSystem.contents` — what is in a file.
-/

/-- A regular file. -/
structure FileEntry where
  content : Bytes
  executable : Bool
  /-- Why the file cannot be opened, if so. -/
  refusal : Option SystemError

/-- What stands at a path. -/
inductive Node
  | file (entry : FileEntry)
  | directory
  | link (target : Bytes)
  | device

/-- What stands at which absolute path, a path being the list of its components; the first
    entry of a path counts. -/
structure FileSystem where
  entries : List (List Bytes × Node)

namespace FileSystem

/-- A file system with one more entry, in front of any other at its path. -/
def add (fs : FileSystem) (path : Bytes) (node : Node) : FileSystem :=
  ⟨(Path.names path, node) :: fs.entries⟩

/-- What stands at a list of components, links not followed. -/
def node? (fs : FileSystem) (names : List Bytes) : Option Node :=
  match fs.entries.lookup names with
  | some node => some node
  | none =>
    -- A directory is there if something stands in it.
    if names == [] || fs.entries.any (fun (path, _) => names.isPrefixOf path) then
      some .directory
    else none

/-- The component that leads up. -/
def up : Bytes := [Path.dot, Path.dot]

/-- Goes through components from the directory `here`; `follow` goes on behind a link. A
    way that is confined to a directory may not go up from it, and no link on it may start
    at the root. -/
def walkThrough (fs : FileSystem) (confines : Option (List Bytes))
    (follow : List Bytes → List Bytes → Except SystemError (List Bytes × Node))
    (here : List Bytes) : List Bytes → Except SystemError (List Bytes × Node)
  | [] => .ok (here, .directory)
  | name :: rest =>
    if name = Path.here then walkThrough fs confines follow here rest
    else if name = up then
      if confines = some here then .error .escaped
      else walkThrough fs confines follow here.dropLast rest
    else if 255 < name.length then .error .nameTooLong
    else match fs.node? (here ++ [name]) with
      | none => .error .notFound
      | some .directory => walkThrough fs confines follow (here ++ [name]) rest
      | some (.link target) =>
        if Path.isAbsolute target then
          if confines.isSome then .error .escaped else follow [] (Path.steps target ++ rest)
        else follow here (Path.steps target ++ rest)
      -- Anything but a directory or a link has to be the last on the way.
      | some node => if rest = [] then .ok (here ++ [name], node) else .error .notDirectory

/-- Goes through components and at most so many links. -/
def walk (fs : FileSystem) (confines : Option (List Bytes)) :
    Nat → List Bytes → List Bytes → Except SystemError (List Bytes × Node)
  | 0 => fun _ _ => .error .loop
  | links + 1 => walkThrough fs confines (walk fs confines links)

/-- The links that may be followed on the way to one file. -/
def maxLinks : Nat := 40

/-- Whether no file can have such a path, however it is looked for. -/
def refusal? (p : Bytes) : Option SystemError :=
  if p = [] then some .notFound
  else if p.contains 0 then some .nulInName
  else if 4096 ≤ p.length then some .nameTooLong
  else none

/-- Where a path leads and what is there; the working directory is `cwd`. -/
def look (fs : FileSystem) (cwd p : Bytes) : Except SystemError (List Bytes × Node) :=
  match refusal? p with
  | some e => .error e
  | none =>
    walk fs none (maxLinks + 1) (if Path.isAbsolute p then [] else Path.names cwd)
      (Path.steps p)

/-- Where a name leads from a directory on a way that does not leave it. -/
def lookWithin (fs : FileSystem) (directory : List Bytes) (name : Bytes) :
    Except SystemError (List Bytes × Node) :=
  match refusal? name with
  | some e => .error e
  | none => walk fs (some directory) (maxLinks + 1) directory [name]

/-- Whether a path leads to a regular file. -/
def isFile (fs : FileSystem) (cwd p : Bytes) : Bool :=
  match fs.look cwd p with
  | .ok (_, .file _) => true
  | _ => false

/-- The contents of the file that a path leads to. -/
def contents (fs : FileSystem) (cwd p : Bytes) : Except SystemError Bytes :=
  match fs.look cwd p with
  | .error e => .error e
  | .ok (_, .file entry) =>
    match entry.refusal with
    | some e => .error e
    | none => .ok entry.content
  | .ok _ => .error (.code 21)

end FileSystem

end ZoneAccess

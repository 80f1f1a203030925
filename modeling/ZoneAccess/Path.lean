import ZoneAccess.Text.Cut
import ZoneAccess.Text.Utf8

namespace ZoneAccess.Path

/-!
# Paths

A path is raw bytes; slashes divide it into components.

* `names` — the components of a path that count: not the empty ones, and not `.`;
* `steps` — the same with a `.` at the end if the form of the path demands a directory;
* `absolute` — a path seen from a working directory, without a look at any file: `..` and
  links are left as they are, exactly two leading slashes are kept, and so is a slash at
  the end. An empty path stays empty;
* `parent` and `join` — going up to a directory and down from it;
* `shown` — a path as text, undecodable parts replaced.
-/

/-- The byte that divides components. -/
def slash : UInt8 := 47

/-- The byte of a dot. -/
def dot : UInt8 := 46

/-- Whether a path starts at the root. -/
def isAbsolute (p : Bytes) : Bool := p.head? == some slash

/-- Whether a path ends in a slash. -/
def endsInSlash (p : Bytes) : Bool := p.getLast? == some slash

/-- The components of a path, without the empty ones and without `.`. -/
def names (p : Bytes) : List Bytes :=
  (cut (· == slash) p).filter fun w => !(w == [] || w == [dot])

/-- Whether the form of a path demands a directory: it ends in a slash or in `.`. -/
def demandsDirectory (p : Bytes) : Bool :=
  match (cut (· == slash) p).getLast? with
  | some last => last == [] || last == [dot]
  | none => false

/-- The component that stays where it is. -/
def here : Bytes := [dot]

/-- The components of a path; one that demands a directory ends in `.`. -/
def steps (p : Bytes) : List Bytes := names p ++ if demandsDirectory p then [here] else []

/-- A path behind which a component can be put: a slash is added unless one is there. -/
def withSlash (base : Bytes) : Bytes := if endsInSlash base then base else base ++ [slash]

/-- A component put behind a path; behind an empty path it stands alone. -/
def push (base name : Bytes) : Bytes := if base = [] then name else withSlash base ++ name

/-- Where the components of an absolute path start: at `//` when exactly two slashes lead,
    else at `/`. -/
def root (p : Bytes) : Bytes :=
  if [slash, slash].isPrefixOf p && !([slash, slash, slash].isPrefixOf p) then [slash, slash]
  else [slash]

/-- A path as seen from the directory `cwd`. -/
def absolute (cwd p : Bytes) : Bytes :=
  if p = [] then []
  else
    let base := (names p).foldl push (if isAbsolute p then root p else cwd)
    if endsInSlash p then withSlash base else base

/-- A path taken from a directory: as it is when it starts at the root. -/
def join (directory p : Bytes) : Bytes := if isAbsolute p then p else push directory p

/-- The directory that holds the last component of a path. -/
def parent (p : Bytes) : Bytes :=
  (names p).dropLast.foldl push (if isAbsolute p then [slash] else here)

/-- The extension of the last component: what follows its last dot, if something other
    than dots stands before it. -/
def extension? (p : Bytes) : Option Bytes :=
  let name := (names p).getLast?.getD []
  let after := name.reverse.takeWhile (· != dot)
  let before := name.reverse.dropWhile (· != dot)
  if before.length ≤ 1 || name == [dot, dot] then none else some after.reverse

/-- A path as text. -/
def shown (p : Bytes) : String := Utf8.decodeLossy p

end ZoneAccess.Path

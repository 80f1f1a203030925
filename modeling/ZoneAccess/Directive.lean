import ZoneAccess.Path
import ZoneAccess.Query

namespace ZoneAccess

/-!
# Directives

What the engine is told in one run: load the rule base, load the grammar, do one thing,
halt.

* `Resources` — the two files, their paths made absolute once and for all;
* `Goal` — the one thing: a query, or the probe that writes a sentinel to show that both
  files were loaded;
* `Directive.text` — the directive as the engine reads it, with the paths as atoms.
-/

/-- The files that the engine loads, by absolute paths. -/
structure Resources where
  ruleBase : Bytes
  grammar : Bytes
  deriving DecidableEq

/-- The resources at two paths, seen from the directory `cwd`. -/
def Resources.resolve (cwd ruleBase grammar : Bytes) : Resources :=
  ⟨Path.absolute cwd ruleBase, Path.absolute cwd grammar⟩

/-- What the engine does once both files are loaded. -/
inductive Goal
  | query (q : Query)
  | probe

namespace Directive

/-- What the probe writes. -/
def sentinel : String := "LEZ SETUP OK"

/-- A path as the engine takes it: decoded, with slashes for backslashes. -/
def pathChars (p : Bytes) : List Char :=
  (Utf8.decodeCharsLossy p).map fun c => if c = Atom.escape then '/' else c

/-- The characters of the probe: write the sentinel, then a line feed. -/
def probeChars : List Char :=
  "write(".toList ++ Atom.quoteChars sentinel.toList ++ "), nl".toList

/-- The characters of a goal. -/
def goalChars : Goal → List Char
  | .query q => q.text.toList
  | .probe => probeChars

/-- The characters of the directive that loads both files and then runs a goal. -/
def chars (r : Resources) (goal : List Char) : List Char :=
  "(consult(".toList ++ Atom.quoteChars (pathChars r.ruleBase) ++
    "), consult(".toList ++ Atom.quoteChars (pathChars r.grammar) ++
    "), ".toList ++ goal ++ ", halt)".toList

/-- The directive that loads both files and then runs a goal. -/
def text (r : Resources) (goal : Goal) : String := String.ofList (chars r (goalChars goal))

/-- The directive of a query. -/
def query (r : Resources) (q : Query) : String := text r (.query q)

/-- The directive of the probe. -/
def probe (r : Resources) : String := text r .probe

end Directive

end ZoneAccess

import ZoneAccess.Directive
import ZoneAccess.Proofs.Directive.Quoting

namespace ZoneAccess.Directive

/-!
# A reader of directives

The form `(consult(A), consult(A), GOAL, halt)`, where `GOAL` is `name([A,…,A])` or
`write(A), nl`, as something that can be read back: `A` is a quoted atom (`Atom.read`) and
`name` is as long as it can be.

* `Instruction` — what a directive says: two files, and a goal (`Errand`);
* `readChars` — the instruction at the front of some characters, and what follows it;
* `read` — the instruction that a whole text is.

The reader looks at its input only; that it recovers what a directive was made of is shown
in `ZoneAccess.Proofs.Directive.Structure`.
-/

/-- What a goal asks for: the call of a predicate on a list of atoms, or that an atom and a
    line feed be written. -/
inductive Errand
  | call (predicate : String) (arguments : List String)
  | write (atom : String)
  deriving DecidableEq

/-- What a directive asks for: two files to load, the rule base first, and a goal. -/
structure Instruction where
  ruleBase : String
  grammar : String
  errand : Errand
  deriving DecidableEq

/-! ### The reader -/

/-- What follows a mark at the front of some characters. -/
def behind? (mark : String) (cs : List Char) : Option (List Char) :=
  if mark.toList.isPrefixOf cs then some (cs.drop mark.toList.length) else none

/-- Atoms divided by commas, at least one, and what follows them. -/
def readAtoms (cs : List Char) : Option (List String × List Char) :=
  match _ : Atom.read cs with
  | none => none
  | some (atom, ',' :: rest) =>
    match readAtoms rest with
    | some (atoms, rest) => some (String.ofList atom :: atoms, rest)
    | none => none
  | some (atom, rest) => some ([String.ofList atom], rest)
termination_by cs.length
decreasing_by
  have := Atom.length_lt_of_read ‹_›
  simp only [List.length_cons] at this
  omega

/-- The goal that begins with a name, from what follows the name. -/
def readErrand (name : List Char) (cs : List Char) : Option (Errand × List Char) :=
  match behind? "([" cs with
  | some cs => do
    let (arguments, cs) ← readAtoms cs
    let cs ← behind? "])" cs
    return (.call (String.ofList name) arguments, cs)
  | none =>
    if name = "write".toList then do
      let cs ← behind? "(" cs
      let (atom, cs) ← Atom.read cs
      let cs ← behind? "), nl" cs
      return (.write (String.ofList atom), cs)
    else none

/-- The goal at the front of some characters, and what follows it. -/
def readGoal (cs : List Char) : Option (Errand × List Char) :=
  if isPlainName (cs.takeWhile isNameChar) then
    readErrand (cs.takeWhile isNameChar) (cs.dropWhile isNameChar)
  else none

/-- The instruction at the front of some characters, and what follows it. -/
def readChars (cs : List Char) : Option (Instruction × List Char) := do
  let cs ← behind? "(consult(" cs
  let (ruleBase, cs) ← Atom.read cs
  let cs ← behind? "), consult(" cs
  let (grammar, cs) ← Atom.read cs
  let cs ← behind? "), " cs
  let (errand, cs) ← readGoal cs
  let cs ← behind? ", halt)" cs
  return (⟨String.ofList ruleBase, String.ofList grammar, errand⟩, cs)

/-- The instruction that a text is, from its first character to its last. -/
def read (s : String) : Option Instruction :=
  match readChars s.toList with
  | some (instruction, []) => some instruction
  | _ => none

end ZoneAccess.Directive

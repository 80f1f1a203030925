import ZoneAccess.Settings.Nesting
import ZoneAccess.Text.Blank
import ZoneAccess.Text.Digit
import ZoneAccess.Text.LetterTable

namespace ZoneAccess.Pattern

/-!
# Patterns

Which texts are regular expressions that can be turned into a matcher of UTF-8. The matcher
has no tables of Unicode: where a pattern is about all of Unicode, it may not ask for the
class of a character, for the edge of a word, or for letters of either case. Where it is
about ASCII only, it may not match bytes that are no text. There are no counted repetitions,
since a brace never closes here. The parts of a pattern may not lie too deep in each other.

* `isValid` — whether a text is such a pattern;
* `Flags` — what the flags at a place say;
* `Reading` — how far a pattern has been read: the open groups, the names of groups, how deep
  the parts are nested, and whether something stands in front that can be repeated;
* `advance` — reads one element of a pattern;
* `bracketed?` — reads a class in brackets.

The readers give back the characters that remain. Where one calls itself behind another, the
number in front bounds how often; the length of the text is enough.
-/

/-! ### Flags and blanks -/

/-- What the flags at a place of a pattern say: whether letters stand for either case,
    whether it is about all of Unicode, and whether blanks and comments do not count. -/
structure Flags where
  caseless : Bool
  unicode : Bool
  spaced : Bool

/-- The flags at the front of a pattern. -/
def Flags.default : Flags := ⟨false, true, false⟩

/-- What follows blanks and comments, where they do not count; `comment` says that one has
    begun. -/
def skip (f : Flags) (comment : Bool) : List Char → List Char
  | [] => []
  | c :: cs =>
    if !f.spaced then c :: cs
    else if comment then skip f (c != '\n') cs
    else if Text.isBlank c then skip f false cs
    else if c = '#' then skip f true cs
    else c :: cs

/-- Whether a single character can be matched. -/
def Flags.takeLiteral (f : Flags) : Bool := !(f.caseless && f.unicode)

/-- Whether a character can be matched as one of a class. -/
def Flags.takeMember (f : Flags) (c : Char) : Bool :=
  f.takeLiteral && (f.unicode || c.toNat < 0x80)

/-! ### Escapes -/

/-- What an escape stands for: a character, given by a byte or otherwise, a class of
    characters or its complement, or a place, perhaps the edge of a word. -/
inductive Escape
  | literal (c : Char) (byte : Bool)
  | charClass (negated : Bool)
  | place (atWord : Bool)

/-- The character with a number of so many hexadecimal digits more, and what follows. -/
def codePoint? (f : Flags) : Nat → Nat → List Char → Option (Char × List Char)
  | 0, n, cs => if n.isValidChar then some (Char.ofNat n, cs) else none
  | width + 1, n, cs =>
    match skip f false cs with
    | [] => none
    | c :: cs => (Text.hexValue? c).bind fun d => codePoint? f width (n * 16 + d) cs

/-- The characters of ASCII that stand for themselves behind a backslash. -/
def isEscapable (c : Char) : Bool :=
  c.toNat < 0x80 && !c.isAlphanum && c != '<' && c != '>'

/-- What follows a backslash, as an escape, and what remains. -/
def escape? (f : Flags) : List Char → Option (Escape × List Char)
  | [] => none
  | 'x' :: cs => (codePoint? f 2 0 cs).map fun (c, cs) => (.literal c true, cs)
  | 'u' :: cs => (codePoint? f 4 0 cs).map fun (c, cs) => (.literal c false, cs)
  | 'U' :: cs => (codePoint? f 8 0 cs).map fun (c, cs) => (.literal c false, cs)
  | c :: cs =>
    if ['d', 's', 'w'].contains c then some (.charClass false, cs)
    else if ['D', 'S', 'W'].contains c then some (.charClass true, cs)
    else if ['a', 'f', 't', 'n', 'r', 'v'].contains c || isEscapable c then
      some (.literal c false, cs)
    else if ['A', 'z'].contains c then some (.place false, cs)
    else if ['b', 'B', '<', '>'].contains c then some (.place true, cs)
    else none

/-- Whether an escape can be matched on its own. -/
def Flags.takeEscape (f : Flags) : Escape → Bool
  | .literal c byte => f.takeLiteral && (f.unicode || !byte || c.toNat < 0x80)
  | .charClass negated => !f.unicode && !negated
  | .place atWord => !(f.unicode && atWord)

/-! ### Classes in brackets -/

/-- The named classes of ASCII. -/
def classNames : List String :=
  ["alnum", "alpha", "ascii", "blank", "cntrl", "digit", "graph", "lower", "print", "punct",
    "space", "upper", "word", "xdigit"]

/-- A named class behind its opening bracket: whether it is negated, and what follows. -/
def namedClass? (cs : List Char) : Option (Bool × List Char) :=
  let named (negated : Bool) (cs : List Char) : Option (Bool × List Char) :=
    let name := cs.takeWhile (· != ':')
    match cs.drop name.length with
    | ':' :: ']' :: rest =>
      if classNames.contains (String.ofList name) then some (negated, rest) else none
    | _ => none
  match cs with
  | ':' :: '^' :: rest => named true rest
  | ':' :: rest => named false rest
  | _ => none

/-- One side of a range of characters. -/
def member? (f : Flags) : List Char → Option (Escape × List Char)
  | [] => none
  | '\\' :: cs => escape? f cs
  | c :: cs => some (.literal c false, cs)

/-- What a reader sees behind a dash when it asks whether a range goes on there. Where blanks
    do not count, it looks past them, and past one sign of a comment as if it were blank. -/
def seen? (f : Flags) (cs : List Char) : Option Char :=
  if !f.spaced then cs.head?
  else match cs.dropWhile Text.isBlank with
    | '#' :: cs => (cs.dropWhile Text.isBlank).head?
    | cs => cs.head?

/-- What follows a range of characters, or a single member of a class. -/
def range? (f : Flags) (cs : List Char) : Option (List Char) := do
  let (first, rest) ← member? f cs
  let rest := skip f false rest
  -- A dash makes no range in front of another dash or of the end of the class.
  let single ← match rest with
    | [] => none
    | '-' :: behind =>
      let next := seen? f behind
      some (next == some ']' || next == some '-')
    | _ => some true
  if single then
    match first with
    | .literal c _ => if f.takeMember c then some rest else none
    | .charClass negated => if f.takeEscape (.charClass negated) then some rest else none
    | .place _ => none
  else
    match first, ← member? f (skip f false (rest.drop 1)) with
    | .literal c _, (.literal d _, rest) =>
      if f.takeMember c && f.takeMember d && c ≤ d then some rest else none
    | _, _ => none

/-- Where in a class a reader stands: at its front, where dashes and, before any of them, a
    closing bracket stand for themselves, or behind. -/
inductive ClassPlace
  | front (empty : Bool)
  | inside

/-- What follows the bracket that opens a class, and a sign of negation. A class about ASCII
    may not be negated. -/
def opened? (f : Flags) (cs : List Char) : Option (List Char) :=
  match skip f false cs with
  | '^' :: cs => if f.unicode then some cs else none
  | cs => some cs

/-- The depth of a class whose rest is given, and what follows. It lies in the classes
    `outer`, and its members so far are nested as `here` says. -/
def classRest? (f : Flags) :
    Nat → List Nesting → Nesting → ClassPlace → List Char → Option (Nat × List Char)
  | 0, _, _, _, _ => none
  | n + 1, outer, here, place, cs =>
    match place, skip f false cs with
    | _, [] => none
    | .front _, '-' :: rest =>
      if f.takeMember '-' then classRest? f n outer (here.put 0) (.front false) rest else none
    | .front true, ']' :: rest =>
      if f.takeMember ']' then classRest? f n outer (here.put 0) .inside rest else none
    | _, ']' :: rest =>
      match outer with
      | [] => some (here.depth + 1, rest)
      | around :: outer => classRest? f n outer (around.put (here.depth + 1)) .inside rest
    | _, '[' :: rest =>
      match namedClass? rest with
      | some (negated, rest) =>
        if f.takeLiteral && (f.unicode || !negated) then
          classRest? f n outer (here.put 0) .inside rest
        else none
      | none => (opened? f rest).bind (classRest? f n (here :: outer) .empty (.front true))
    | _, '&' :: '&' :: rest => classRest? f n outer here.operate .inside rest
    | _, '-' :: '-' :: rest => classRest? f n outer here.operate .inside rest
    | _, '~' :: '~' :: rest => classRest? f n outer here.operate .inside rest
    | _, cs => (range? f cs).bind (classRest? f n outer (here.put 0) .inside)

/-- The depth of a class behind its opening bracket, and what follows. -/
def bracketed? (f : Flags) (cs : List Char) : Option (Nat × List Char) :=
  (opened? f cs).bind (classRest? f (cs.length + 1) [] .empty (.front true))

/-! ### Groups -/

/-- How far a pattern has been read: the flags and the nesting at this place and outside of
    each open group, the names of groups, and whether something stands in front that can be
    repeated. -/
structure Reading where
  flags : Flags
  nesting : Nesting
  outside : List (Flags × Nesting)
  names : List (List Char)
  repeatable : Bool

/-- The flags that a letter changes. -/
def Flags.set (f : Flags) (on : Bool) (letter : Char) : Flags :=
  if letter = 'i' then { f with caseless := on }
  else if letter = 'u' then { f with unicode := on }
  else if letter = 'x' then { f with spaced := on }
  else f

/-- The flags that letters make, of which each may be there once; behind a dash they are
    taken away. With them comes the sign at their end, and what follows. -/
def flags? (f : Flags) (seen : List Char) : List Char → Option (Flags × Char × List Char)
  | [] => none
  | c :: cs =>
    if c = ':' || c = ')' then
      -- A dash takes away at least one flag, and where no group opens there is at least one.
      if seen.head? = some '-' || (c = ')' && seen = []) then none else some (f, c, cs)
    else if seen.contains c || !(['-', 'i', 'm', 's', 'U', 'u', 'R', 'x'].contains c) then none
    else flags? (f.set (!seen.contains '-') c) (c :: seen) cs

/-- Whether characters are the name of a group. -/
def isName (cs : List Char) : Bool :=
  match cs with
  | [] => false
  | c :: cs => (c == '_' || Text.isLetter c) &&
    cs.all fun c => ['_', '.', '[', ']'].contains c || Text.isLetterOrNumber c

namespace Reading

/-- A reading at the front of an alternative. -/
def atFront (r : Reading) : Reading := { r with nesting := r.nesting.divide, repeatable := false }

/-- A reading behind flags for what follows in the same group, which cannot be repeated. -/
def withFlags (r : Reading) (f : Flags) : Reading :=
  { r with flags := f, nesting := r.nesting.put 0, repeatable := false }

/-- A reading behind an element of some depth. -/
def behind (r : Reading) (depth : Nat) : Reading :=
  { r with nesting := r.nesting.put depth, repeatable := true }

/-- A reading behind a sign that repeats the last element. -/
def repeated (r : Reading) : Reading := { r with nesting := r.nesting.deepen }

/-- A reading inside one more group. -/
def inGroup (r : Reading) (f : Flags) : Reading :=
  { r with
    flags := f, nesting := .empty, outside := (r.flags, r.nesting) :: r.outside,
    repeatable := false }

/-- A reading behind a group that is open, if there is one. -/
def closed? (r : Reading) : Option Reading :=
  match r.outside with
  | [] => none
  | (flags, nesting) :: outside =>
    some ({ r with flags, nesting, outside }.behind (r.nesting.depth + 1))

/-- A reading inside a group with a name, and what follows the name. -/
def inNamed? (r : Reading) (cs : List Char) : Option (Reading × List Char) :=
  let name := cs.takeWhile (· != '>')
  match cs.drop name.length with
  | '>' :: rest =>
    if isName name && !r.names.contains name then
      some ({ r.inGroup r.flags with names := name :: r.names }, rest)
    else none
  | _ => none

/-- A reading behind an opening parenthesis, and what follows. -/
def opened? (r : Reading) (cs : List Char) : Option (Reading × List Char) :=
  match skip r.flags false cs with
  | '?' :: 'P' :: '<' :: cs => r.inNamed? cs
  | '?' :: '<' :: cs => r.inNamed? cs
  | '?' :: cs =>
    (flags? r.flags [] cs).map fun (f, sign, rest) =>
      if sign = ':' then (r.inGroup f, rest) else (r.withFlags f, rest)
  | cs => some (r.inGroup r.flags, cs)

end Reading

/-! ### Patterns -/

/-- Reads the element that starts with a character. -/
def advance (r : Reading) (c : Char) (cs : List Char) : Option (Reading × List Char) :=
  match c with
  | '(' => r.opened? cs
  | ')' => r.closed?.map fun r => (r, cs)
  | '|' => some (r.atFront, cs)
  | '[' => (bracketed? r.flags cs).map fun (depth, rest) => (r.behind depth, rest)
  -- The field that holds the pattern ends at the first closing brace.
  | '\x7b' => none
  | '\\' =>
    (escape? r.flags cs).bind fun (e, rest) =>
      if r.flags.takeEscape e then some (r.behind 0, rest) else none
  | '.' => if r.flags.unicode then some (r.behind 0, cs) else none
  | '^' => some (r.behind 0, cs)
  | '$' => some (r.behind 0, cs)
  | c =>
    if ['?', '*', '+'].contains c then
      -- A question mark behind the sign belongs to it.
      if r.repeatable then some (r.repeated, if cs.head? = some '?' then cs.tail else cs)
      else none
    else if r.flags.takeLiteral then some (r.behind 0, cs)
    else none

/-- How deep the parts of a pattern may lie. -/
def maxDepth : Nat := 250

/-- Whether the rest of a pattern is valid. -/
def isValidFrom : Nat → Reading → List Char → Bool
  | 0, _, _ => false
  | n + 1, r, cs =>
    match skip r.flags false cs with
    | [] => r.outside.isEmpty && r.nesting.depth ≤ maxDepth
    | c :: cs =>
      match advance r c cs with
      | some (r, rest) => isValidFrom n r rest
      | none => false

/-- Whether a text is a pattern. -/
def isValid (cs : List Char) : Bool :=
  isValidFrom (cs.length + 1) ⟨.default, .empty, [], [], false⟩ cs

end ZoneAccess.Pattern

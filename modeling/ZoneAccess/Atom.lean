import ZoneAccess.Text.Blank
import ZoneAccess.Text.Digit

namespace ZoneAccess.Atom

/-!
# Quoted atoms

The engine reads a text between single quotes as one atom.

* `quote` — the written form: a quote is doubled, a backslash is doubled, a control
  character is its number in hexadecimal between `\x` and `\`, everything else stands for
  itself;
* `read` — the engine's reader: the atom at the front of some characters and what follows
  it. The atom ends at the first quote that no other quote follows.
-/

/-- The character that delimits an atom. -/
def delimiter : Char := Char.ofNat 39

/-- The character that begins an escape. -/
def escape : Char := Char.ofNat 92

/-- The written form of one character inside the quotes. -/
def quoteChar (c : Char) : List Char :=
  if c = delimiter then [delimiter, delimiter]
  else if c = escape then [escape, escape]
  else if Text.isControl c then [escape, 'x'] ++ Nat.toDigits 16 c.toNat ++ [escape]
  else [c]

/-- The written form of an atom with these characters. -/
def quoteChars (cs : List Char) : List Char :=
  [delimiter] ++ cs.flatMap quoteChar ++ [delimiter]

/-- The written form of an atom with this text. -/
def quote (s : String) : String := String.ofList (quoteChars s.toList)

/-! ### Reading -/

/-- Where in an atom the reader stands: among plain characters, behind a quote, behind a
    backslash, or among the digits of an escape, which have come to a value if there was
    one. -/
inductive Mode
  | plain
  | quote
  | escape
  | hex (value : Option Nat)

/-- Puts a character in front of what was read behind it. -/
def push (c : Char) : Option (List Char × List Char) → Option (List Char × List Char)
  | some (atom, rest) => some (c :: atom, rest)
  | none => none

/-- Reads on inside an atom: its remaining characters, and what follows it. -/
def readFrom : Mode → List Char → Option (List Char × List Char)
  | .quote, [] => some ([], [])
  | _, [] => none
  | .plain, c :: cs =>
    if c = delimiter then readFrom .quote cs
    else if c = Atom.escape then readFrom .escape cs
    else push c (readFrom .plain cs)
  | .quote, c :: cs =>
    if c = delimiter then push delimiter (readFrom .plain cs) else some ([], c :: cs)
  | .escape, c :: cs =>
    if c = Atom.escape then push Atom.escape (readFrom .plain cs)
    else if c = 'x' then readFrom (.hex none) cs
    else none
  | .hex value, c :: cs =>
    if c = Atom.escape then
      match value with
      | some n => if n.isValidChar then push (Char.ofNat n) (readFrom .plain cs) else none
      | none => none
    else match Text.hexValue? c with
      | some d => readFrom (.hex (some (value.getD 0 * 16 + d))) cs
      | none => none

/-- The atom at the front of some characters, and what follows it. -/
def read : List Char → Option (List Char × List Char)
  | [] => none
  | c :: cs => if c = delimiter then readFrom .plain cs else none

end ZoneAccess.Atom

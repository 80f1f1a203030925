import ZoneAccess.Decimal
import ZoneAccess.Settings.Value
import ZoneAccess.Text.Blank
import ZoneAccess.Text.Cut
import ZoneAccess.Text.Digit
import ZoneAccess.Text.Utf8

namespace ZoneAccess

/-!
# Settings in the environment

A variable whose name starts with `LEZ_` gives the setting of the name that follows.

* `Variables` — the environment, name by name, and `Variables.ofBlock` — the one that the
  system keeps as bytes;
* `Variables.value` — what a variable gives: a list if it has a comma and is not bracketed
  or quoted, a truth value, or else a value in a notation with numbers, quoted strings,
  lists and tables; what is in no notation is text as it stands;
* `Variables.keyParts` — what the name of a variable says: which setting is meant, and which
  name inside the table that is its value;
* `Variables.layer` — all that the environment sets; of variables for one setting the last
  counts.
-/

/-- The environment: names with their values. -/
abbrev Variables := List (Bytes × Bytes)

namespace Variables

/-- A variable as the system keeps it: a name, which is not empty, then `=`, then the value. -/
def ofEntry? : Bytes → Option (Bytes × Bytes)
  | [] => none
  | b :: bs =>
    let name := bs.takeWhile (· != 61)
    match bs.drop name.length with
    | [] => none
    | _ :: value => some (b :: name, value)

/-- The environment as the system keeps it: variables that each end in a zero byte. -/
def ofBlock (block : Bytes) : Variables := (cut (· == 0) block).filterMap ofEntry?

/-- The value of a variable, if it is set. -/
def find? (vars : Variables) (name : String) : Option Bytes := vars.lookup (Utf8.encode name)

/-! ### The notation of values -/

/-- Whether a character is blank in this notation. -/
def isGap (c : Char) : Bool := c == ' ' || (9 ≤ c.toNat && c.toNat ≤ 13 && c.toNat != 11)

/-- What follows the blanks. -/
def skipGap (cs : List Char) : List Char := cs.dropWhile isGap

/-- Whether a character ends a word. -/
def isMark (c : Char) : Bool :=
  c == ',' || c == '[' || c == ']' || c == '\x7b' || c == '\x7d'

/-- Whether a character may stand in a name without quotes. -/
def isNameChar (c : Char) : Bool := c.isAlphanum || c == '_' || c == '-'

/-- The text before the quote that ends a string, and what follows that quote. -/
def quoted? : List Char → Option (List Char × List Char)
  | [] => none
  | '\\' :: c :: cs => (quoted? cs).map fun (s, rest) => ('\\' :: c :: s, rest)
  | c :: cs =>
    if c = '\"' then some ([], cs) else (quoted? cs).map fun (s, rest) => (c :: s, rest)

/-- A string with its escapes resolved; `pending` holds the digits that a numbered escape
    still wants, and the number so far. -/
def unescape (pending : Option (Nat × Nat)) : List Char → Option (List Char)
  | [] => if pending.isNone then some [] else none
  | c :: cs =>
    match pending with
    | some (more, n) =>
      match Text.hexValue? c with
      | none => none
      | some d =>
        let n := n * 16 + d
        if more = 1 then
          if n.isValidChar then (unescape none cs).map (Char.ofNat n :: ·) else none
        else unescape (some (more - 1, n)) cs
    | none =>
      if c = '\\' then
        match cs with
        | 'u' :: cs => unescape (some (4, 0)) cs
        | 'U' :: cs => unescape (some (8, 0)) cs
        | '\"' :: cs => (unescape none cs).map ('\"' :: ·)
        | '\\' :: cs => (unescape none cs).map ('\\' :: ·)
        | 'b' :: cs => (unescape none cs).map (Char.ofNat 8 :: ·)
        | 'f' :: cs => (unescape none cs).map (Char.ofNat 12 :: ·)
        | 'n' :: cs => (unescape none cs).map ('\n' :: ·)
        | 'r' :: cs => (unescape none cs).map ('\r' :: ·)
        | 't' :: cs => (unescape none cs).map ('\t' :: ·)
        | _ => none
      else if c = '\t' || (0x20 ≤ c.toNat && c.toNat != 0x7F) then
        (unescape none cs).map (c :: ·)
      else none

/-- The characters at the front that fit into so many bytes. -/
def fitting : Nat → List Char → List Char
  | _, [] => []
  | room, c :: cs =>
    let size := (Utf8.encodeChar c).length
    if size ≤ room then c :: fitting (room - size) cs else []

/-- A quoted string behind its opening quote, and what follows. Of the characters in front
    of the first escape, those count that fit into as many bytes as there are of them. -/
def string? (cs : List Char) : Option (List Char × List Char) := do
  let (raw, rest) ← quoted? cs
  let s ← unescape none raw
  let plain := (raw.takeWhile (· != '\\')).length
  if plain = raw.length then return (s, rest)
  else return (fitting plain (s.take plain) ++ s.drop plain, rest)

/-- Whether characters are digits, at least one. -/
def isDigits (cs : List Char) : Bool := cs != [] && cs.all Char.isDigit

/-- Characters without a sign at the front. -/
def unsigned : List Char → List Char
  | '-' :: cs => cs
  | '+' :: cs => cs
  | cs => cs

/-- A number with a point, its sign left aside. -/
def decimal? (cs : List Char) : Option Decimal :=
  let whole := cs.takeWhile Char.isDigit
  match cs.dropWhile Char.isDigit with
  | '.' :: rest =>
    let part := rest.takeWhile Char.isDigit
    if whole = [] && part = [] then none
    else match rest.dropWhile Char.isDigit with
      | [] => some (Decimal.ofParts whole part 0)
      | e :: exponent =>
        if (e == 'e' || e == 'E') && isDigits (unsigned exponent) then
          some (Decimal.ofParts whole part (Decimal.ofSignedDigits exponent))
        else none
  | _ => none

/-- A real number; one that is too large to be finite is nothing. -/
def real? (cs : List Char) : Option Value :=
  (decimal? (unsigned cs)).map fun d => if d.isInfinite then .nothing else .real

/-- An integer: below 2 ^ 64, or negative and not below -2 ^ 63. -/
def integer? (cs : List Char) : Option Int :=
  let n := Decimal.ofDigits (unsigned cs)
  if !isDigits (unsigned cs) then none
  else if cs.head? = some '-' then
    if n ≤ 9223372036854775808 then some (-(n : Int)) else none
  else if n < 18446744073709551616 then some n else none

/-- The value of a word. -/
def word (cs : List Char) : Value :=
  let cs := Text.trimmed cs
  match real? cs with
  | some v => v
  | none =>
    match integer? cs with
    | some n => .integer n
    | none => .text (String.ofList cs)

/-- A name in a table, and what follows. -/
def name? (cs : List Char) : Option (String × List Char) :=
  match cs with
  | '\"' :: cs => (string? cs).map fun (name, rest) => (String.ofList name, rest)
  | cs =>
    let name := cs.takeWhile isNameChar
    if name = [] then none else some (String.ofList name, cs.dropWhile isNameChar)

/-- The names of a table with one more at the end, which replaces another of its kind. -/
def put (name : String) (v : Value) (t : List (String × Bool)) : List (String × Bool) :=
  t.filter (·.1 != name) ++ [(name, v.isNothing)]

mutual

/-- A value at the front, and what follows; the number bounds how deep and how far. -/
def value? : Nat → List Char → Option (Value × List Char)
  | 0, _ => none
  | n + 1, cs =>
    let cs := skipGap cs
    if "true".toList.isPrefixOf cs then some (.boolean, skipGap (cs.drop 4))
    else if "false".toList.isPrefixOf cs then some (.boolean, skipGap (cs.drop 5))
    else match cs with
      | '\x7b' :: rest => (members? n [] rest).map fun (t, rest) => (.table t, skipGap rest)
      | '[' :: rest => (elements? n rest).map fun rest => (.array, skipGap rest)
      | '\"' :: rest =>
        (string? rest).map fun (s, rest) => (.text (String.ofList s), skipGap rest)
      | c :: d :: e :: rest =>
        -- Single quotes hold one character.
        if c = Char.ofNat 39 then
          if e = c then some (.text (String.ofList [d]), skipGap rest) else none
        else some (word (cs.takeWhile fun c => !isMark c),
          skipGap (cs.dropWhile fun c => !isMark c))
      | cs =>
        if cs.head? = some (Char.ofNat 39) then none
        else some (word (cs.takeWhile fun c => !isMark c),
          skipGap (cs.dropWhile fun c => !isMark c))

/-- What follows the rest of a list. -/
def elements? : Nat → List Char → Option (List Char)
  | 0, _ => none
  | _, ']' :: rest => some rest
  | n + 1, cs => do
    let (_, rest) ← value? n cs
    match rest with
    | ',' :: rest => elements? n rest
    | ']' :: rest => some rest
    | _ => none

/-- A table whose names so far are given, and what follows its rest. -/
def members? : Nat → List (String × Bool) → List Char →
    Option (List (String × Bool) × List Char)
  | 0, _, _ => none
  | _, t, '\x7d' :: rest => some (t, rest)
  | n + 1, t, cs => do
    let (name, rest) ← name? (skipGap cs)
    match skipGap rest with
    | '=' :: rest =>
      let (v, rest) ← value? n rest
      let t := put name v t
      match rest with
      | ',' :: rest => members? n t rest
      | '\x7d' :: rest => some (t, rest)
      | _ => none
    | _ => none

end

/-- What the text of a variable gives. -/
def value (text : String) : Value :=
  let cs := Text.trimmed text.toList
  let bracketed := match cs with
    | c :: _ => c == '[' || c == '\x7b' || c == '\"' || c == Char.ofNat 39
    | [] => false
  let small := cs.map Char.toLower
  if cs.contains ',' && !bracketed then .array
  else if small == "true".toList || small == "false".toList then .boolean
  else match value? (cs.length + 1) cs with
    | some (v, []) => v
    | _ => .text (String.ofList cs)

/-! ### Names -/

/-- A text in which two underscores are replaced by a dot. -/
def withDots : List Char → List Char
  | [] => []
  | '_' :: '_' :: cs => '.' :: withDots cs
  | c :: cs => c :: withDots cs

/-- What the name of a variable says, if it starts with `LEZ_` behind blanks, in small
    letters: two underscores, or a dot, lead into a table. A name with an empty part says
    nothing. -/
def keyParts (name : List Char) : Option (List String) :=
  let small := (Text.trimmed name).map Char.toLower
  if "lez_".toList.isPrefixOf small then
    let parts := cut (· == '.') (Text.trimmed (withDots (small.drop 4)))
    if parts.any List.isEmpty then none else some (parts.map String.ofList)
  else none

/-- The setting that a variable gives, if its name is that of one. What leads into a table
    makes the setting a table. -/
def entry? (name value : Bytes) : Option (String × Value) :=
  match keyParts (Utf8.decodeCharsLossy name) with
  | some [key] => some (key, Variables.value (Utf8.decodeLossy value))
  | some [key, inner] =>
    some (key, .table (put inner (Variables.value (Utf8.decodeLossy value)) []))
  | some (key :: inner :: _) => some (key, .table [(inner, false)])
  | _ => none

/-- All that the environment sets. -/
def layer (vars : Variables) : Layer :=
  .ofEntries (vars.filterMap fun (name, v) => entry? name v)

end Variables

end ZoneAccess

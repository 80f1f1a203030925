import ZoneAccess.Settings.Pattern
import ZoneAccess.Text.Utf8

namespace ZoneAccess.LogFilter

/-!
# Log filters

Which log records are kept is told by directives with commas between them.

* `isValid` — whether a text is a list of directives, some of which may be missing;
* `isDirective` — a level, or a target and perhaps a span in brackets, with a level behind
  an equals sign;
* `isLevel` — the name or number of a level;
* `isField` — a field of a span, and perhaps the value that it has to have.

A directive is read without the blanks at its ends. Its level and its fields, though, are
what stands in the directive, blanks included, at the places found that way. So blanks at the
front push them out of place, and blanks at the end belong to the level.
-/

/-! ### Levels and fields -/

/-- Whether a text names a level, in letters of any case or as a number from 0 to 5, which
    a plus may precede. -/
def isLevel (cs : List Char) : Bool :=
  let small := cs.map Char.toLower
  let digits := if cs.head? = some '+' then cs.tail else cs
  let significant := digits.dropWhile (· == '0')
  small == [] || ["off", "error", "warn", "info", "debug", "trace"].any (·.toList == small) ||
    (digits != [] && digits.all Char.isDigit && significant.length ≤ 1 &&
      significant.all fun c => c.toNat ≤ 53)

/-- Whether characters are an exponent, or nothing. -/
def isExponent : List Char → Bool
  | [] => true
  | e :: cs =>
    let digits := match cs with
      | '+' :: cs => cs
      | '-' :: cs => cs
      | cs => cs
    (e == 'e' || e == 'E') && digits != [] && digits.all Char.isDigit

/-- Whether characters are a number, its sign left aside, finite or not. -/
def isNumber (cs : List Char) : Bool :=
  let whole := cs.takeWhile Char.isDigit
  let small := cs.map Char.toLower
  ["inf", "infinity", "nan"].any (·.toList == small) ||
    match cs.drop whole.length with
    | '.' :: rest =>
      let part := rest.takeWhile Char.isDigit
      !(whole == [] && part == []) && isExponent (rest.drop part.length)
    | rest => whole != [] && isExponent rest

/-- Whether characters say which value a field has to have: a truth value, a number or a
    pattern. All truth values are patterns, and so are all numbers without a plus in
    front. -/
def isMatcher : List Char → Bool
  | '+' :: cs => isNumber cs
  | cs => Pattern.isValid cs

/-- Whether characters are a field: a name and, behind an equals sign, a value. What follows
    a second equals sign does not count. -/
def isField (cs : List Char) : Bool :=
  match cut (· == '=') cs with
  | [] => false
  | [name] => name != []
  | _ :: value :: _ => isMatcher value

/-! ### Directives -/

/-- Where in a directive a reader stands; for a field and for a level it is known at which
    byte they begin. -/
inductive Place
  | start
  | target
  | span
  | field (first : Nat)
  | fields
  | behindSpan
  | level (first : Nat)

/-- The characters between two bytes of a directive, if none of them is cut. -/
def between? (directive : Bytes) (first last : Nat) : Option (List Char) :=
  Utf8.decodeChars? ((directive.take last).drop first)

/-- Reads the character at a byte of a directive. -/
def advance (directive : Bytes) (i : Nat) (place : Place) (c : Char) : Option Place :=
  match place with
  | .start =>
    if c == '[' then some .span
    else if c == '-' || c == ':' || c == '_' || Text.isLetterOrNumber c then some .target
    else none
  | .target =>
    if c == '=' then some (.level (i + 1)) else if c == '[' then some .span else some .target
  | .span =>
    if c == ']' then some .behindSpan else if c == '\x7b' then some (.field (i + 1))
    else some .span
  | .field first =>
    if c == '\x7d' then
      if (between? directive first i).any isField then some .fields else none
    else some (.field first)
  | .fields => if c == ']' then some .behindSpan else none
  | .behindSpan => if c == '=' then some (.level (i + 1)) else none
  | .level first => some (.level first)

/-- Reads a directive from a byte and a place on. -/
def readFrom (directive : Bytes) (i : Nat) (place : Place) : List Char → Option Place
  | [] => some place
  | c :: cs =>
    (advance directive i place c).bind fun place =>
      readFrom directive (i + (Utf8.encodeChar c).length) place cs

/-- Whether a text is one directive. -/
def isDirective (cs : List Char) : Bool :=
  let directive := Utf8.encodeChars cs
  -- Places are counted without the blanks in front, and then looked up with them.
  match readFrom directive 0 .start (Text.trimmed cs) with
  | some .target => true
  | some (.level first) => (between? directive first directive.length).any isLevel
  | some .behindSpan => true
  | _ => false

/-- Whether a text is a list of directives. -/
def isValid (text : String) : Bool :=
  ((cut (· == ',') text.toList).filter (· != [])).all isDirective

end ZoneAccess.LogFilter

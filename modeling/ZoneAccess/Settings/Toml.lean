import ZoneAccess.Decimal
import ZoneAccess.Settings.Value
import ZoneAccess.Text.Digit

namespace ZoneAccess.Toml

/-!
# TOML

Settings files are documents in TOML.

* `Edition` — which documents are understood: those of TOML 1.0, or those of TOML 1.1 too;
* `entries?` — what stands under the top-level names of a document, or nothing if it is
  malformed;
* `value?`, `scalar?` — the values;
* `Entry`, `Kind`, `Table` — a document under construction, which remembers how each table
  came about, because a table may be opened by a header only once and may not be opened
  again by a dotted name.

The readers take the characters that are left and give back those that remain. Where they
call themselves, the number in front bounds the depth and length of what they read; the
length of the document is always enough.
-/

/-! ### Editions -/

/-- A selection of documents. The newer one has more escapes in strings, lets an inline
    table go over several lines and end in a comma, and does not ask for the seconds of a
    time. No name has more parts, and no value lies deeper, than `limit` says. -/
structure Edition where
  newer : Bool
  limit : Nat

/-- Documents in TOML 1.0. -/
def Edition.older : Edition := ⟨false, 79⟩

/-- Documents in TOML 1.1, which reach one level deeper. -/
def Edition.newest : Edition := ⟨true, 80⟩

/-! ### Characters -/

/-- Whether a character may stand in a name without quotes. -/
def isBare (c : Char) : Bool :=
  c.isAlphanum || c == '_' || c == '-'

/-- Whether a character is blank within a line. -/
def isSpace (c : Char) : Bool := c == ' ' || c == '\t'

/-- Whether a character may stand in a comment or a string. -/
def isPrintable (c : Char) : Bool := c == '\t' || (0x20 ≤ c.toNat && c.toNat != 0x7F)

/-- The character with a number of exactly so many hexadecimal digits, and what follows. -/
def codePoint? (width : Nat) (cs : List Char) : Option (Char × List Char) :=
  if (cs.take width).length = width then
    (Text.hexNumber? 0 (cs.take width)).bind fun n =>
      if n.isValidChar then some (Char.ofNat n, cs.drop width) else none
  else none

/-- What follows the blanks of a line. -/
def skipSpace (cs : List Char) : List Char := cs.dropWhile isSpace

/-- What follows blanks, line ends and comments; `comment` says that one has begun. -/
def skipTrivia (comment : Bool) : List Char → Option (List Char)
  | [] => some []
  | '\n' :: cs => skipTrivia false cs
  | '\r' :: '\n' :: cs => skipTrivia false cs
  | c :: cs =>
    if comment then if isPrintable c then skipTrivia true cs else none
    else if isSpace c then skipTrivia false cs
    else if c = '#' then skipTrivia true cs
    else some (c :: cs)

/-- What follows the end of a line, before which a comment may stand. -/
def endOfLine? (cs : List Char) : Option (List Char) :=
  let cs := skipSpace cs
  let cs := if cs.head? = some '#' then cs.dropWhile isPrintable else cs
  match cs with
  | [] => some []
  | '\n' :: cs => some cs
  | '\r' :: '\n' :: cs => some cs
  | _ => none

/-! ### Strings -/

/-- The character of a short escape. -/
def shortEscape? : Char → Option Char
  | 'b' => some (Char.ofNat 8)
  | 't' => some '\t'
  | 'n' => some '\n'
  | 'f' => some (Char.ofNat 12)
  | 'r' => some '\r'
  | '\"' => some '\"'
  | '\\' => some '\\'
  | _ => none

/-- Puts characters in front of what was read behind them. -/
def prepend (front : List Char) :
    Option (List Char × List Char) → Option (List Char × List Char)
  | some (cs, rest) => some (front ++ cs, rest)
  | none => none

/-- The character of an escape behind its backslash, and what follows. -/
def escape? (ed : Edition) : List Char → Option (Char × List Char)
  | [] => none
  | 'u' :: cs => codePoint? 4 cs
  | 'U' :: cs => codePoint? 8 cs
  | e :: cs =>
    if ed.newer && e = 'x' then codePoint? 2 cs
    else if ed.newer && e = 'e' then some (Char.ofNat 0x1B, cs)
    else (shortEscape? e).map fun c => (c, cs)

/-- The content of a string that `quote` ends, and what follows. A string over several
    lines ends at three quotes, in front of which two more may belong to it; a literal
    string has no escapes. -/
def stringBody (ed : Edition) (multiline literal : Bool) (quote : Char) :
    Nat → List Char → Option (List Char × List Char)
  | 0, _ => none
  | _, [] => none
  | n + 1, c :: cs =>
    if c = quote then
      if !multiline then some ([], cs)
      else if cs.take 2 = [quote, quote] then
        -- Of up to five quotes in a row the last three end the string.
        let extra := ((cs.drop 2).take 2).takeWhile (· == quote)
        some (extra, (cs.drop 2).drop extra.length)
      else prepend [c] (stringBody ed multiline literal quote n cs)
    else if c = '\\' && !literal then
      -- A backslash at the end of a line takes all blanks and line ends behind it along.
      let line := skipSpace cs
      if multiline && (line.head? = some '\n' || line.take 2 = ['\r', '\n']) then
        stringBody ed multiline literal quote n
          (cs.dropWhile fun c => isSpace c || c == '\n' || c == '\r')
      else match escape? ed cs with
        | some (c, cs) => prepend [c] (stringBody ed multiline literal quote n cs)
        | none => none
    else if c = '\n' then
      if multiline then prepend [c] (stringBody ed multiline literal quote n cs) else none
    else if c = '\r' then
      if multiline && cs.head? = some '\n' then stringBody ed multiline literal quote n cs
      else none
    else if isPrintable c then prepend [c] (stringBody ed multiline literal quote n cs)
    else none

/-- A string at the front, and what follows. -/
def string? (ed : Edition) (cs : List Char) : Option (List Char × List Char) :=
  match cs with
  | q :: rest =>
    if q = '\"' || q = Char.ofNat 39 then
      let literal := q != '\"'
      if rest.take 2 = [q, q] then
        let body := rest.drop 2
        -- A line end right behind the opening quotes does not count.
        let body := if body.take 2 = ['\r', '\n'] then body.drop 2
          else if body.head? = some '\n' then body.drop 1 else body
        stringBody ed true literal q (cs.length + 1) body
      else stringBody ed false literal q (cs.length + 1) rest
    else none
  | [] => none

/-! ### Names -/

/-- A simple name, and what follows. -/
def name? (ed : Edition) (cs : List Char) : Option (String × List Char) :=
  match cs with
  | [] => none
  | c :: _ =>
    if c = '\"' || c = Char.ofNat 39 then
      -- No name goes over several lines.
      if cs.take 3 = [c, c, c] then none
      else (string? ed cs).map fun (name, rest) => (String.ofList name, rest)
    else
      let name := cs.takeWhile isBare
      if name = [] then none else some (String.ofList name, cs.dropWhile isBare)

/-- The parts of a dotted name, and what follows. -/
def nameParts? (ed : Edition) : Nat → List Char → Option (List String × List Char)
  | 0, _ => none
  | n + 1, cs => do
    let (name, rest) ← name? ed (skipSpace cs)
    match skipSpace rest with
    | '.' :: rest =>
      let (names, rest) ← nameParts? ed n rest
      return (name :: names, rest)
    | rest => return ([name], rest)

/-- A dotted name, and what follows. -/
def path? (ed : Edition) (cs : List Char) : Option (List String × List Char) :=
  nameParts? ed ed.limit cs

/-! ### Tables -/

/-- How a table came about: on the way to another, by a dotted name, or by a header. -/
inductive Kind
  | passing
  | dotted
  | opened
  deriving DecidableEq

/-- What stands under a name. -/
inductive Entry
  | value (v : Value)
  | table (kind : Kind) (entries : List (String × Entry))
  | tables (elements : List (List (String × Entry)))

/-- The entries of a table in the order of the document. -/
abbrev Table := List (String × Entry)

/-- A table in which a name that it has stands for something else. -/
def replace (name : String) (entry : Entry) (t : Table) : Table :=
  t.map fun (n, e) => if n = name then (n, entry) else (n, e)

/-- Sets what a dotted name stands for, which must be new. The tables on the way are made or
    must not have been opened; of a list of tables the last is taken. The table at its end
    takes the name only if it `accepts` one: it is where the way began, or came about by a
    dotted name. -/
def assign (accepts : Bool) (v : Value) : List String → Table → Option Table
  | [], _ => none
  | [name], t =>
    if accepts && (t.lookup name).isNone then some (t ++ [(name, .value v)]) else none
  | name :: names, t =>
    match t.lookup name with
    | none => (assign true v names []).map fun sub => t ++ [(name, .table .dotted sub)]
    | some (.table kind sub) =>
      -- What a header has opened is closed to dotted names.
      if kind = .opened then none
      else (assign (kind == .dotted) v names sub).map fun sub =>
        replace name (.table kind sub) t
    | some (.tables elements) =>
      (assign false v names (elements.getLast?.getD [])).map fun sub =>
        replace name (.tables (elements.dropLast ++ [sub])) t
    | some (.value _) => none

/-- Changes the table that a header names; of a list of tables, the last. -/
def changeAt (change : Table → Option Table) : List String → Table → Option Table
  | [], t => change t
  | name :: names, t =>
    match t.lookup name with
    | none => (changeAt change names []).map fun sub => t ++ [(name, .table .passing sub)]
    | some (.table kind sub) =>
      (changeAt change names sub).map fun sub => replace name (.table kind sub) t
    | some (.tables elements) => do
      let sub ← changeAt change names (elements.getLast?.getD [])
      return replace name (.tables (elements.dropLast ++ [sub])) t
    | some (.value _) => none

/-- Opens a table by a header, which may happen once. -/
def openTable (path : List String) (t : Table) : Option Table :=
  match path.getLast? with
  | none => none
  | some name =>
    changeAt (fun t =>
      match t.lookup name with
      | none => some (t ++ [(name, .table .opened [])])
      -- A table that was only passed on the way has not been opened yet.
      | some (.table .passing sub) => some (replace name (.table .opened sub) t)
      | some _ => none) path.dropLast t

/-- Opens one more table of a list by a header. -/
def openElement (path : List String) (t : Table) : Option Table :=
  match path.getLast? with
  | none => none
  | some name =>
    changeAt (fun t =>
      match t.lookup name with
      | none => some (t ++ [(name, .tables [[]])])
      | some (.tables elements) => some (replace name (.tables (elements ++ [[]])) t)
      | some _ => none) path.dropLast t

/-! ### Values -/

/-- Whether characters are digits with single underscores between them. -/
def isDigits (digit : Char → Bool) : List Char → Bool
  | [] => false
  | [c] => digit c
  | c :: '_' :: cs => digit c && isDigits digit cs
  | c :: cs => digit c && isDigits digit cs

/-- The value of digits in a base, underscores left aside. -/
def digitsValue (base : Nat) (cs : List Char) : Nat :=
  (cs.filterMap Text.hexValue?).foldl (fun n d => n * base + d) 0

/-- Characters without a sign at the front, and whether it was a minus. -/
def unsigned : List Char → Bool × List Char
  | '-' :: cs => (true, cs)
  | '+' :: cs => (false, cs)
  | cs => (false, cs)

/-- Characters without the underscores. -/
def withoutMarks (cs : List Char) : List Char := cs.filter (· != '_')

/-- Whether characters are digits that do not start with a zero in vain. -/
def isWhole (cs : List Char) : Bool :=
  isDigits Char.isDigit cs && (cs.length = 1 || cs.head? != some '0')

/-- An integer, which has to fit 64 bits. -/
def integer? (cs : List Char) : Option Int :=
  let number : Option Int := match cs with
    | '0' :: 'x' :: ds =>
      if isDigits (fun c => (Text.hexValue? c).isSome) ds then some (digitsValue 16 ds) else none
    | '0' :: 'o' :: ds =>
      if isDigits (fun c => '0' ≤ c && c ≤ '7') ds then some (digitsValue 8 ds) else none
    | '0' :: 'b' :: ds =>
      if isDigits (fun c => c == '0' || c == '1') ds then some (digitsValue 2 ds) else none
    -- Only the decimal form takes a sign.
    | _ =>
      let (negative, ds) := unsigned cs
      if isWhole ds then
        let n : Int := digitsValue 10 ds
        some (if negative then -n else n)
      else none
  number.bind fun n =>
    if -9223372036854775808 ≤ n && n ≤ 9223372036854775807 then some n else none

/-- The number that an exponent spells; without characters it is zero. -/
def exponent? : List Char → Option Int
  | [] => some 0
  | e :: cs =>
    if (e == 'e' || e == 'E') && isDigits Char.isDigit (unsigned cs).2 then
      some (Decimal.ofSignedDigits (withoutMarks cs))
    else none

/-- A number with a point or an exponent, its sign left aside. -/
def decimal? (cs : List Char) : Option Decimal :=
  let isMarked (c : Char) : Bool := c.isDigit || c == '_'
  let whole := cs.takeWhile isMarked
  if !isWhole whole then none
  else match cs.dropWhile isMarked with
    | [] => none
    | '.' :: frac =>
      let part := frac.takeWhile isMarked
      if isDigits Char.isDigit part then
        (exponent? (frac.dropWhile isMarked)).map
          (Decimal.ofParts (withoutMarks whole) (withoutMarks part))
      else none
    | rest => (exponent? rest).map (Decimal.ofParts (withoutMarks whole) [])

/-- A real number. One that is spelled as not finite is nothing, but none may be too large
    to be finite. -/
def real? (cs : List Char) : Option Value :=
  let ds := (unsigned cs).2
  if ds = ['i', 'n', 'f'] || ds = ['n', 'a', 'n'] then some .nothing
  else (decimal? ds).bind fun d => if d.isInfinite then none else some .real

/-- The value of exactly so many digits at the front, and what follows. -/
def fixedNumber? (width : Nat) (cs : List Char) : Option (Nat × List Char) :=
  if (cs.take width).length = width && (cs.take width).all Char.isDigit then
    some (digitsValue 10 (cs.take width), cs.drop width)
  else none

/-- The number of days of a month. -/
def daysIn (year month : Nat) : Nat :=
  if month = 2 then
    if year % 4 = 0 && (year % 100 != 0 || year % 400 = 0) then 29 else 28
  else if month = 4 || month = 6 || month = 9 || month = 11 then 30
  else 31

/-- What follows a date. -/
def date? (cs : List Char) : Option (List Char) := do
  let (year, cs) ← fixedNumber? 4 cs
  let '-' :: cs := cs | none
  let (month, cs) ← fixedNumber? 2 cs
  let '-' :: cs := cs | none
  let (day, cs) ← fixedNumber? 2 cs
  if 1 ≤ month && month ≤ 12 && 1 ≤ day && day ≤ daysIn year month then some cs else none

/-- What follows a time of day. -/
def time? (ed : Edition) (cs : List Char) : Option (List Char) := do
  let (hour, cs) ← fixedNumber? 2 cs
  let ':' :: cs := cs | none
  let (minute, cs) ← fixedNumber? 2 cs
  if 24 ≤ hour || 60 ≤ minute then none
  else match cs with
    | ':' :: cs =>
      let (second, cs) ← fixedNumber? 2 cs
      -- The second may be a leap second.
      if 60 < second then none
      else match cs with
        | '.' :: c :: rest => if c.isDigit then some (rest.dropWhile Char.isDigit) else none
        | '.' :: [] => none
        | rest => some rest
    | rest => if ed.newer then some rest else none

/-- Whether characters are an offset from universal time, or nothing. -/
def isOffset (cs : List Char) : Bool :=
  match cs with
  | [] => true
  | ['Z'] => true
  | ['z'] => true
  | sign :: cs =>
    (sign == '+' || sign == '-') &&
      match fixedNumber? 2 cs with
      | some (hour, ':' :: rest) =>
        hour < 24 && match fixedNumber? 2 rest with
          | some (minute, []) => minute < 60
          | _ => false
      | _ => false

/-- Whether characters are a date, a time of day, or both. -/
def isMoment (ed : Edition) (cs : List Char) : Bool :=
  match date? cs with
  | some [] => true
  | some (t :: rest) =>
    (t == 'T' || t == 't' || t == ' ') &&
      match time? ed rest with
      | some offset => isOffset offset
      | none => false
  | none => time? ed cs == some []

/-- Whether a character may stand in a number or a point in time. -/
def isScalarChar (c : Char) : Bool := isBare c || c == '+' || c == '.' || c == ':'

/-- The value of a point in time: a table with a name of its own. -/
def moment : Value := .table [("moment", false)]

/-- A value that is neither quoted nor bracketed. -/
def scalar? (ed : Edition) (cs : List Char) : Option Value :=
  if cs = ['t', 'r', 'u', 'e'] || cs = ['f', 'a', 'l', 's', 'e'] then some .boolean
  else match integer? cs with
    | some n => some (.integer n)
    | none =>
      match real? cs with
      | some v => some v
      | none => if isMoment ed cs then some moment else none

/-- The characters of a value that is neither quoted nor bracketed, and what follows. A
    blank may stand between a date and a time of day. -/
def scalarChars (cs : List Char) : List Char × List Char :=
  let word := cs.takeWhile isScalarChar
  let rest := cs.dropWhile isScalarChar
  match rest with
  | ' ' :: d :: more =>
    if date? word = some [] && d.isDigit then
      (word ++ ' ' :: (d :: more).takeWhile isScalarChar, (d :: more).dropWhile isScalarChar)
    else (word, rest)
  | _ => (word, rest)

/-- Whether a value is nothing, for each name of a table. -/
def marks (t : Table) : List (String × Bool) :=
  t.map fun (name, e) =>
    match e with
    | .value v => (name, v.isNothing)
    | _ => (name, false)

/-- What follows the blanks inside an inline table. -/
def skipInside (ed : Edition) (cs : List Char) : Option (List Char) :=
  if ed.newer then skipTrivia false cs else some (skipSpace cs)

mutual

/-- A value at the front, and what follows; `depth` levels may lie in it. -/
def value? (ed : Edition) : Nat → Nat → List Char → Option (Value × List Char)
  | 0, _, _ => none
  | _, _, [] => none
  | n + 1, depth, c :: cs =>
    if c = '\"' || c = Char.ofNat 39 then
      (string? ed (c :: cs)).map fun (s, rest) => (.text (String.ofList s), rest)
    else if c = '[' then
      if depth = 0 then none else (elements? ed n (depth - 1) cs).map fun rest => (.array, rest)
    else if c = '\x7b' then
      if depth = 0 then none
      else match skipInside ed cs with
        | some ('\x7d' :: rest) => some (.table [], rest)
        | some rest =>
          (members? ed n (depth - 1) [] rest).map fun (t, rest) => (.table (marks t), rest)
        | none => none
    else
      let (word, rest) := scalarChars (c :: cs)
      (scalar? ed word).map fun v => (v, rest)

/-- What follows the rest of an array. -/
def elements? (ed : Edition) : Nat → Nat → List Char → Option (List Char)
  | 0, _, _ => none
  | n + 1, depth, cs => do
    match ← skipTrivia false cs with
    | ']' :: rest => some rest
    | cs =>
      let (_, rest) ← value? ed n depth cs
      match ← skipTrivia false rest with
      | ',' :: rest => elements? ed n depth rest
      | ']' :: rest => some rest
      | _ => none

/-- An inline table whose entries so far are given, and what follows its rest. -/
def members? (ed : Edition) : Nat → Nat → Table → List Char → Option (Table × List Char)
  | 0, _, _, _ => none
  | n + 1, depth, t, cs => do
    let (path, rest) ← path? ed cs
    let '=' :: rest ← skipInside ed rest | none
    let (v, rest) ← value? ed n depth (← skipInside ed rest)
    let t ← assign true v path t
    match ← skipInside ed rest with
    | ',' :: rest =>
      match ← skipInside ed rest with
      -- A comma in front of the brace.
      | '\x7d' :: rest => if ed.newer then some (t, rest) else none
      | rest => members? ed n depth t rest
    | '\x7d' :: rest => some (t, rest)
    | _ => none

end

/-! ### Documents -/

/-- Reads the rest of a document: `header` is the table that is open. -/
def document? (ed : Edition) : Nat → List String → Table → List Char → Option Table
  | 0, _, _, _ => none
  | n + 1, header, t, cs => do
    match ← skipTrivia false cs with
    | [] => some t
    | '[' :: '[' :: cs =>
      let (path, rest) ← path? ed cs
      let ']' :: ']' :: rest := rest | none
      let rest ← endOfLine? rest
      let t ← openElement path t
      document? ed n path t rest
    | '[' :: cs =>
      let (path, rest) ← path? ed cs
      let ']' :: rest := rest | none
      let rest ← endOfLine? rest
      let t ← openTable path t
      document? ed n path t rest
    | cs =>
      let (path, rest) ← path? ed cs
      let '=' :: rest := rest | none
      let (v, rest) ← value? ed (n + 1) ed.limit (skipSpace rest)
      let rest ← endOfLine? rest
      let t ← changeAt (assign true v path) header t
      document? ed n header t rest

/-- The value of an entry. -/
def Entry.toValue : Entry → Value
  | .value v => v
  | .table _ t => .table (marks t)
  | .tables _ => .array

/-- What stands under the top-level names of a document. -/
def entries? (ed : Edition) (text : String) : Option (List (String × Value)) :=
  let cs := text.toList
  -- A byte order mark does not count.
  let cs := if cs.head? = some (Char.ofNat 0xFEFF) then cs.drop 1 else cs
  (document? ed (cs.length + 1) [] [] cs).map fun t =>
    t.map fun (name, e) => (name, e.toValue)

end ZoneAccess.Toml

namespace ZoneAccess

/-!
# UTF-8

* `Bytes` — raw bytes, which arguments, paths, files and streams are made of;
* `Utf8.encode` — the bytes of a text;
* `Utf8.parts` — bytes as characters and maximal invalid parts, a byte at a time: a part is
  as long as it could still have become a character;
* `Utf8.decode?` — the text of bytes that have no invalid part;
* `Utf8.decodeLossy` — the text of any bytes, each invalid part read as U+FFFD.
-/

/-- Raw bytes: an argument, a path, the contents of a file, a stream. -/
abbrev Bytes := List UInt8

namespace Utf8

/-- The bytes of one character. -/
def encodeChar (c : Char) : Bytes :=
  let n := c.toNat
  if n < 0x80 then [UInt8.ofNat n]
  else if n < 0x800 then [UInt8.ofNat (0xC0 + n / 0x40), UInt8.ofNat (0x80 + n % 0x40)]
  else if n < 0x10000 then
    [UInt8.ofNat (0xE0 + n / 0x1000), UInt8.ofNat (0x80 + n / 0x40 % 0x40),
      UInt8.ofNat (0x80 + n % 0x40)]
  else
    [UInt8.ofNat (0xF0 + n / 0x40000), UInt8.ofNat (0x80 + n / 0x1000 % 0x40),
      UInt8.ofNat (0x80 + n / 0x40 % 0x40), UInt8.ofNat (0x80 + n % 0x40)]

/-- The bytes of a list of characters. -/
def encodeChars (cs : List Char) : Bytes := cs.flatMap encodeChar

/-- The bytes of a text. -/
def encode (s : String) : Bytes := encodeChars s.toList

/-- How far into a character the bytes read so far have led: nowhere, or to `value` with
    `more` bytes to come, the next of which has to lie between `lo` and `hi`. -/
inductive Stage
  | outside
  | inside (value more lo hi : Nat)

/-- One decoded part: a character, or a stretch of bytes that is none. -/
abbrev Part := Option Char

/-- What a byte outside a character does. The table of well-formed sequences: the second
    byte of some is confined further, which rules out overlong forms, surrogates and
    numbers past U+10FFFF. -/
def lead (b : Nat) : List Part × Stage :=
  if b < 0x80 then ([some (Char.ofNat b)], .outside)
  else if 0xC2 ≤ b && b ≤ 0xDF then ([], .inside (b - 0xC0) 1 0x80 0xBF)
  else if b = 0xE0 then ([], .inside 0 2 0xA0 0xBF)
  else if b = 0xED then ([], .inside 0xD 2 0x80 0x9F)
  else if 0xE1 ≤ b && b ≤ 0xEF then ([], .inside (b - 0xE0) 2 0x80 0xBF)
  else if b = 0xF0 then ([], .inside 0 3 0x90 0xBF)
  else if 0xF1 ≤ b && b ≤ 0xF3 then ([], .inside (b - 0xF0) 3 0x80 0xBF)
  else if b = 0xF4 then ([], .inside 4 3 0x80 0x8F)
  else ([none], .outside)

/-- What the next byte does: it goes on with the character, ends it, or breaks it off and
    is then read as if it stood outside. -/
def step : Stage → Nat → List Part × Stage
  | .outside, b => lead b
  | .inside value more lo hi, b =>
    if lo ≤ b && b ≤ hi then
      let value := value * 0x40 + (b - 0x80)
      if more = 1 then ([some (Char.ofNat value)], .outside)
      else ([], .inside value (more - 1) 0x80 0xBF)
    -- The byte that breaks a character off may begin another one.
    else (none :: (lead b).1, (lead b).2)

/-- The parts of what follows a stage; a character that the bytes do not finish is an
    invalid part. -/
def partsFrom : Stage → Bytes → List Part
  | .outside, [] => []
  | .inside .., [] => [none]
  | stage, b :: bs => (step stage b.toNat).1 ++ partsFrom (step stage b.toNat).2 bs

/-- Bytes as characters and maximal invalid parts. -/
def parts (bs : Bytes) : List Part := partsFrom .outside bs

/-- The characters of the parts, if none is invalid. -/
def allChars : List Part → Option (List Char)
  | [] => some []
  | none :: _ => none
  | some c :: ps => (allChars ps).map (c :: ·)

/-- The characters of bytes that are valid UTF-8. -/
def decodeChars? (bs : Bytes) : Option (List Char) := allChars (parts bs)

/-- The text of bytes that are valid UTF-8. -/
def decode? (bs : Bytes) : Option String := (decodeChars? bs).map String.ofList

/-- The characters of any bytes, each invalid part replaced by U+FFFD. -/
def decodeCharsLossy (bs : Bytes) : List Char :=
  (parts bs).map fun part => part.getD (Char.ofNat 0xFFFD)

/-- The text of any bytes, each invalid part replaced by U+FFFD. -/
def decodeLossy (bs : Bytes) : String := String.ofList (decodeCharsLossy bs)

end Utf8

end ZoneAccess

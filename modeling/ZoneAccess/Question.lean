import ZoneAccess.Text.Blank
import ZoneAccess.Text.Lower

namespace ZoneAccess.Question

/-!
# Questions

What a question in plain words comes down to is a list of tokens.

* `tokens` — the words of a question in lower case, rid of noise; lower-casing sees the
  whole text, noise included, because the form of a sigma depends on its neighbours;
* `isNumeric` — whether a token is a number.
-/

/-- The punctuation that carries no meaning in a question. -/
def isNoise (c : Char) : Bool := c == '?' || c == ',' || c == '.'

/-- The tokens of a list of characters. -/
def tokenChars (cs : List Char) : List (List Char) :=
  Text.words ((Text.lower cs).filter fun c => !isNoise c)

/-- The tokens of a question. -/
def tokens (text : String) : List String := (tokenChars text.toList).map String.ofList

/-- Whether a token consists of ASCII digits, at least one. -/
def isNumeric (token : String) : Bool :=
  !token.toList.isEmpty && token.toList.all fun c => 48 ≤ c.toNat && c.toNat ≤ 57

/-- The question that words on a command line make. -/
def ofWords (words : List String) : String :=
  String.ofList ([' '].intercalate (words.map String.toList))

end ZoneAccess.Question

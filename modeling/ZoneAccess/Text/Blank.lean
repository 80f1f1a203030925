import ZoneAccess.Text.Cut

namespace ZoneAccess.Text

/-!
# Blank and control characters

* `isBlank` — the Unicode property `White_Space`, which trimming and the cutting into
  words go by;
* `isControl` — the general category `Cc`;
* `trim` — a text without the blanks at either end;
* `words` — the stretches of a text between blanks, the empty ones dropped;
* `firstFullLine?` — the first line that is not blank, trimmed.
-/

/-- The Unicode property `White_Space`. -/
def isBlank (c : Char) : Bool :=
  (9 ≤ c.toNat && c.toNat ≤ 13) || c.toNat == 0x20 || c.toNat == 0x85 || c.toNat == 0xA0 ||
  c.toNat == 0x1680 || (0x2000 ≤ c.toNat && c.toNat ≤ 0x200A) || c.toNat == 0x2028 ||
  c.toNat == 0x2029 || c.toNat == 0x202F || c.toNat == 0x205F || c.toNat == 0x3000

/-- The general category `Cc`: the control characters of ASCII and Latin-1. -/
def isControl (c : Char) : Bool :=
  c.toNat < 0x20 || (0x7F ≤ c.toNat && c.toNat ≤ 0x9F)

/-- A list of characters without the blanks at its front. -/
def trimFront (cs : List Char) : List Char := cs.dropWhile isBlank

/-- A list of characters without the blanks at its end. -/
def trimBack (cs : List Char) : List Char := (cs.reverse.dropWhile isBlank).reverse

/-- A list of characters without the blanks at either end. -/
def trimmed (cs : List Char) : List Char := trimBack (trimFront cs)

/-- A text without the blanks at either end. -/
def trim (s : String) : String := String.ofList (trimmed s.toList)

/-- The words of a list of characters: its stretches between blanks that hold anything. -/
def words (cs : List Char) : List (List Char) :=
  (cut isBlank cs).filter fun w => !w.isEmpty

/-- The lines of a text, which line feeds divide. -/
def lines (s : String) : List String := (cut (· == '\n') s.toList).map String.ofList

/-- The first line that is not blank, without the blanks at its ends. -/
def firstFullLine? (s : String) : Option String :=
  ((lines s).map trim).find? fun line => !line.isEmpty

/-- The characters of a trimmed text. -/
@[simp] theorem toList_trim (s : String) : (trim s).toList = trimmed s.toList := by
  simp [trim]

end ZoneAccess.Text

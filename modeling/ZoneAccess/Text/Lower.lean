import ZoneAccess.Text.CaseTable

namespace ZoneAccess.Text

/-!
# Lower case

The full lower-casing of a text, which is per character but for the capital sigma:

* `lowerChar` — the small form of a character on its own, one or two characters;
* `smallSigma` — the final sigma ends a word: before it, and not behind it, stands a cased
  character, everything case-ignorable left aside;
* `lowerAfter before cs` — the small form of `cs` behind `before`, which is given backwards;
* `lower` — the small form of a whole text.
-/

/-- The property `Cased`. -/
def isCased (c : Char) : Bool := inRanges casedRanges c.toNat

/-- The property `Case_Ignorable`. -/
def isCaseIgnorable (c : Char) : Bool := inRanges caseIgnorableRanges c.toNat

/-- The small form of a character, its neighbours left aside. -/
def lowerChar (c : Char) : List Char :=
  -- The only character whose small form is two: a dotted capital I.
  if c.toNat = 0x130 then ['i', Char.ofNat 0x307]
  else match lowerRuns.find? (·.covers c.toNat) with
    | some r => [Char.ofNat (r.target + (c.toNat - r.first))]
    | none => [c]

/-- The capital sigma, whose small form depends on its neighbours. -/
def capitalSigma : Char := Char.ofNat 0x3A3

/-- Whether the nearest character that is not case-ignorable is cased. -/
def meetsCased (cs : List Char) : Bool :=
  match cs.dropWhile isCaseIgnorable with
  | [] => false
  | c :: _ => isCased c

/-- The small sigma between `before`, read backwards, and `after`: the final form exactly
    at the end of a word. -/
def smallSigma (before after : List Char) : Char :=
  if meetsCased before && !meetsCased after then Char.ofNat 0x3C2 else Char.ofNat 0x3C3

/-- The small form of the characters that follow `before`, which is read backwards. -/
def lowerAfter (before : List Char) : List Char → List Char
  | [] => []
  | c :: cs =>
    (if c = capitalSigma then [smallSigma before cs] else lowerChar c) ++
      lowerAfter (c :: before) cs

/-- The small form of a list of characters. -/
def lower (cs : List Char) : List Char := lowerAfter [] cs

end ZoneAccess.Text

namespace ZoneAccess

/-!
# Decimal numbers

* `Decimal` — a natural number times a power of ten;
* `Decimal.ofParts` — the one that is written with digits before and behind a point;
* `Decimal.isInfinite` — whether it is too large for a double, so that it rounds to
  infinity.
-/

/-- A natural number times a power of ten. -/
structure Decimal where
  mantissa : Nat
  exponent : Int
  deriving DecidableEq

namespace Decimal

/-- The number that decimal digits spell. -/
def ofDigits (cs : List Char) : Nat := cs.foldl (fun n c => n * 10 + (c.toNat - 48)) 0

/-- The number that decimal digits spell behind a sign, if there is one. -/
def ofSignedDigits : List Char → Int
  | '-' :: cs => -(ofDigits cs : Int)
  | '+' :: cs => ofDigits cs
  | cs => ofDigits cs

/-- The number with some digits before and behind the point, times a power of ten. -/
def ofParts (whole part : List Char) (exponent : Int) : Decimal :=
  ⟨ofDigits (whole ++ part), exponent - part.length⟩

/-- The number halfway between the largest finite double and the next power of two, which
    is the least that rounds to infinity. -/
def bound : Nat := (Nat.pow 2 54 - 1) * Nat.pow 2 970

/-- The number of decimal digits of a natural number. -/
def width (n : Nat) : Nat := (Nat.toDigits 10 n).length

/-- Whether a number is too large for a double. The bound has 309 digits, so a number of
    another width needs no further look. -/
def isInfinite (d : Decimal) : Bool :=
  let digits : Int := width d.mantissa + d.exponent
  if d.mantissa = 0 then false
  else if digits ≠ 309 then 309 < digits
  else if 0 ≤ d.exponent then bound ≤ d.mantissa * Nat.pow 10 d.exponent.toNat
  else bound * Nat.pow 10 (-d.exponent).toNat ≤ d.mantissa

end Decimal

end ZoneAccess

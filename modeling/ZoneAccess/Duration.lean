namespace ZoneAccess

/-!
# Durations

* `Duration` — whole seconds and the nanoseconds beyond them;
* `Duration.text` — the number in the largest of the units s, ms, µs and ns in which its
  whole part is not zero, with the fraction that is left and no trailing zeros.
-/

/-- A span of time: whole seconds and less than a second in nanoseconds. -/
structure Duration where
  secs : UInt64
  nanos : Nat
  nanos_lt : nanos < 1000000000
  deriving DecidableEq

namespace Duration

/-- The duration of whole seconds. -/
def ofSecs (secs : UInt64) : Duration := ⟨secs, 0, by decide⟩

/-- The duration of nanoseconds. -/
def ofNanos (n : Nat) : Duration :=
  ⟨UInt64.ofNat (n / 1000000000), n % 1000000000, Nat.mod_lt _ (by decide)⟩

/-- The duration of milliseconds. -/
def ofMillis (n : Nat) : Duration := ofNanos (n * 1000000)

/-- All of a duration in nanoseconds. -/
def toNanos (d : Duration) : Nat := d.secs.toNat * 1000000000 + d.nanos

/-- The decimal places of `value` out of `10 ^ width`, up to the last that is not zero. -/
def places : Nat → Nat → List Char
  | 0, _ => []
  | width + 1, value =>
    if value = 0 then []
    else Nat.digitChar (value / 10 ^ width) :: places width (value % 10 ^ width)

/-- A number and its unit: the whole part, and behind a point the fraction `part` out of
    `10 ^ width`, unless it is zero. -/
def measure (whole part width : Nat) (unit : String) : String :=
  toString whole ++ (if part = 0 then "" else "." ++ String.ofList (places width part)) ++ unit

/-- The written form of a duration. -/
def text (d : Duration) : String :=
  if 0 < d.secs.toNat then measure d.secs.toNat d.nanos 9 "s"
  else if 1000000 ≤ d.nanos then measure (d.nanos / 1000000) (d.nanos % 1000000) 6 "ms"
  else if 1000 ≤ d.nanos then measure (d.nanos / 1000) (d.nanos % 1000) 3 "µs"
  else measure d.nanos 0 0 "ns"

end Duration

end ZoneAccess

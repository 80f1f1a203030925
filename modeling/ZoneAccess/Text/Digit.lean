namespace ZoneAccess.Text

/-!
# Digits

* `hexValue?` — the value of a hexadecimal digit, capital or small;
* `hexNumber?` — the number that hexadecimal digits spell behind others.
-/

/-- The value of a hexadecimal digit. -/
def hexValue? (c : Char) : Option Nat :=
  let n := c.toNat
  if 48 ≤ n && n ≤ 57 then some (n - 48)
  else if 97 ≤ n && n ≤ 102 then some (n - 87)
  else if 65 ≤ n && n ≤ 70 then some (n - 55)
  else none

/-- A digit is read as the value that it was written for. -/
theorem hexValue?_digitChar : ∀ d < 16, hexValue? (Nat.digitChar d) = some d := by decide

/-- The number that hexadecimal digits spell behind digits that have come to `value`. -/
def hexNumber? (value : Nat) : List Char → Option Nat
  | [] => some value
  | c :: cs => (hexValue? c).bind fun d => hexNumber? (value * 16 + d) cs

end ZoneAccess.Text

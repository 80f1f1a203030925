namespace ZoneAccess

/-!
# Nesting

How deep the parts of a pattern lie in each other, kept while a reader goes through it.

* `Nesting` — what is known inside one group, or inside one class in brackets: the depth of
  what stands in front of the last divider, and that of the row of elements behind it;
* `Nesting.depth` — the depth of all of it. A row of several elements lies one deeper than a
  single element does, and what is divided lies one deeper than its parts;
* `Nesting.put`, `Nesting.deepen`, `Nesting.divide`, `Nesting.operate` — what an element, a
  sign of repetition, a bar and an operator of a class do to it.
-/

/-- How deep the parts of a group or a class are nested: what stands in front of the last
    divider, and behind it the elements but the last one, and the last one. -/
structure Nesting where
  divided : Option Nat
  front : Option Nat
  last : Option Nat
  deriving DecidableEq

namespace Nesting

/-- Nothing has been read. -/
def empty : Nesting := ⟨none, none, none⟩

/-- The depth of the row of elements behind the last divider. -/
def row (n : Nesting) : Nat :=
  match n.front, n.last with
  | some front, some last => max front last + 1
  | none, some last => last
  | _, none => 0

/-- The depth of all parts together. -/
def depth (n : Nesting) : Nat :=
  match n.divided with
  | some d => max d n.row + 1
  | none => n.row

/-- One more element of some depth. -/
def put (n : Nesting) (d : Nat) : Nesting :=
  { n with front := n.last.map fun last => max (n.front.getD 0) last, last := some d }

/-- The last element lies one deeper. -/
def deepen (n : Nesting) : Nesting := { n with last := n.last.map (· + 1) }

/-- A bar behind an alternative: all alternatives lie side by side. -/
def divide (n : Nesting) : Nesting := { empty with divided := some (max (n.divided.getD 0) n.row) }

/-- An operator behind its left side, which is all that stands in front of it. -/
def operate (n : Nesting) : Nesting := { empty with divided := some n.depth }

end Nesting

end ZoneAccess

/-!
# Sets of code points

A set of characters as the closed ranges of their code points. The sets of this library are
properties of the Unicode character database, version 17.0.
-/

namespace TrafficChart.Text

/-- Closed ranges of code points. -/
abbrev CodePoints := List (Nat × Nat)

def CodePoints.has (ranges : CodePoints) (c : Char) : Bool :=
  ranges.any fun r => decide (r.1 ≤ c.toNat ∧ c.toNat ≤ r.2)

end TrafficChart.Text

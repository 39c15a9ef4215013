import TrafficChart.Decimal.Shortest

/-!
# Text with a fixed number of places

The exact binary value is rounded to the last place; a half goes to the even digit.
-/

namespace TrafficChart.Decimal

/-- The number `mantissa · 2 ^ exponent` in units of `10 ^ -places`, rounded. -/
def fixedUnits (places mantissa : Nat) (exponent : Int) : Nat :=
  let (up, down) := powerOfTwo exponent
  roundHalfEven (mantissa * up * (powerOfTen places).1) down

/-- The text of a number with the given number of places; a zero keeps its sign. -/
def renderFixed (places : Nat) (x : Float32) : String :=
  match Binary32.ofFloat32 x with
  | .nan => "NaN"
  | .infinite negative => signed negative "inf"
  | .finite negative mantissa exponent =>
    signed negative (positional (fixedUnits places mantissa exponent) (-(places : Int)))

end TrafficChart.Decimal

/-!
# Single and double precision

Places on the screen are numbers of single precision, computed in double precision. A conversion
yields the nearest number, and of two equally near ones that whose last digit is even. Conversions
between the precisions go through the logical model of these numbers, so that a place can be computed
in a proof.
-/

namespace TrafficChart

open Float.Model

/-- The number of a format that is nearest to a number. -/
def nearest (format : Format) : UnpackedFloat → UnpackedFloat
  | .finite sign mantissa exponent _ => .round format sign mantissa exponent
  | x => x

/-- A number in single precision. -/
def toSingle (x : Float) : Float32 := ⟨.pack (nearest .binary32 x.toModel.unpack)⟩

/-- A number in double precision. -/
def toDouble (x : Float32) : Float := ⟨.pack (nearest .binary64 x.toModel.unpack)⟩

/-- The number in double precision that is nearest to an integer. The magnitude of each integer is a
word without sign. -/
def doubleOfInt64 (n : Int64) : Float :=
  if n < 0 then -(-n).toUInt64.toFloat else n.toUInt64.toFloat

end TrafficChart

import TrafficChart.Geometry.Precision
import TrafficChart.Overflow

/-!
# Scales

A scale lays an interval of values over a length of pixels. Time runs rightward from pixel 0.
Byte totals run upward: the least value lies on the lower edge, at `size`.
-/

namespace TrafficChart

/-- Where a value lies on the screen. -/
abbrev Axis := Int64 → Float32

/-- The horizontal axis of times and the vertical axis of byte totals. -/
structure Axes where
  horiz : Axis
  vert : Axis

/-- A byte total as a value on an axis. -/
def axisValue (total : UInt64) : Int64 := clampInt64 total.toNat

theorem toInt_axisValue (total : UInt64) :
    (axisValue total).toInt = min (total.toNat : Int) 9223372036854775807 := by
  rw [axisValue, toInt_clampInt64]
  omega

structure Scale where
  low : Int64
  high : Int64
  size : Float32

namespace Scale

/-- New ends for the values. An interval without length is widened to length one. -/
def withBounds (s : Scale) (low high : Int64) : Scale :=
  { s with low, high := if high ≤ low then satAdd low 1 else high }

def withSize (s : Scale) (size : Float32) : Scale := { s with size }

/-- The scale from `low` to `high` over `size` pixels. -/
def spanning (low high : Int64) (size : Float32) : Scale :=
  withBounds ⟨low, high, size⟩ low high

/-- The length of the value interval. -/
def extent (s : Scale) : Int64 := satSub s.high s.low

/-- How far a value lies along the interval: 0 at `low`, 1 at `high`. -/
def ratio (s : Scale) (v : Int64) : Float :=
  doubleOfInt64 (satSub v s.low) / doubleOfInt64 s.extent

/-- The divisor for pixels: the size, but at least the gap between 1 and the next number. -/
def divisor (s : Scale) : Float :=
  let least : Float32 := Float32.ofBits 0x34000000
  toDouble (if least < s.size then s.size else least)

/-- The value at a ratio of the interval, rounded to nearest with halves away from zero. A
distance beyond the range stops at its end, and an undefined one counts as zero. -/
def valueAt (s : Scale) (ratio : Float) : Except Overflow Int64 :=
  let distance := (ratio * doubleOfInt64 s.extent).round.toInt64
  word64 .addition (s.low.toInt + distance.toInt)

def rightward (s : Scale) : Axis := fun t => toSingle (s.ratio t * toDouble s.size)

def instantAt (s : Scale) (x : Float32) : Except Overflow Int64 :=
  s.valueAt (toDouble x / s.divisor)

def upward (s : Scale) : Axis := fun v =>
  toSingle (toDouble s.size - s.ratio v * toDouble s.size)

def bytesAt (s : Scale) (y : Float32) : Except Overflow Int64 :=
  s.valueAt (toDouble (s.size - y) / s.divisor)

end Scale

end TrafficChart

import TrafficChart.Decimal.Binary32

/-!
# Shortest decimal text

A number is written with the fewest decimal places that still single it out: the coarsest
decimal grid with a point among the reals that round to the number decides, and of its points
the one nearest to the number is written. The text is positional, without an exponent.

## Main definitions

* `RoundingInterval`: the reals that round to one number.
* `shortest`: the digits and the power of ten of the grid.
* `render`: the text of a number.
-/

namespace TrafficChart.Decimal

/-- The reals that round to `value · 2 ^ exponent`: from `low` to `high`, in the same unit. The
ends belong to it when `closed`. -/
structure RoundingInterval where
  low : Nat
  value : Nat
  high : Nat
  exponent : Int
  closed : Bool

namespace RoundingInterval

/-- The interval of a positive mantissa, in quarters of its unit. Below the first mantissa of a
binade the numbers lie twice as close, the least binade apart. -/
def ofMantissa (mantissa : Nat) (exponent : Int) : RoundingInterval where
  low := if mantissa = leadingUnit ∧ leastExponent < exponent
    then 4 * mantissa - 1 else 4 * mantissa - 2
  value := 4 * mantissa
  high := 4 * mantissa + 2
  exponent := exponent - 2
  closed := mantissa % 2 = 0

/-- One step of the grid `10 ^ k` and one unit of the interval, on a common scale. -/
@[inline] def scales (i : RoundingInterval) (k : Int) : Nat × Nat :=
  let (tenUp, tenDown) := powerOfTen k
  let (twoUp, twoDown) := powerOfTwo i.exponent
  (tenUp * twoDown, twoUp * tenDown)

/-- Whether `n · 10 ^ k` lies in the interval. -/
def Contains (i : RoundingInterval) (k : Int) (n : Nat) : Prop :=
  let (step, unit) := i.scales k
  if i.closed then i.low * unit ≤ n * step ∧ n * step ≤ i.high * unit
  else i.low * unit < n * step ∧ n * step < i.high * unit

@[inline] instance (i : RoundingInterval) (k : Int) (n : Nat) : Decidable (i.Contains k n) := by
  unfold Contains
  dsimp only
  infer_instance

/-- The point of the grid `10 ^ k` in the interval that is nearest to the value. Only the two
neighbours of the value can be it; the upper one is taken when both are equally near. -/
def pointOn? (i : RoundingInterval) (k : Int) : Option Nat :=
  let (step, unit) := i.scales k
  let below := i.value * unit / step
  let rest := i.value * unit % step
  match decide (i.Contains k below), decide (i.Contains k (below + 1)) with
  | true, true => some (if 2 * rest < step then below else below + 1)
  | true, false => some below
  | false, true => some (below + 1)
  | false, false => none

/-- A power of ten above the value: 30103 / 100000 is the decimal logarithm of two. -/
def coarsestGrid (i : RoundingInterval) : Int :=
  ((Nat.log2 i.value : Int) + 1 + i.exponent) * 30103 / 100000 + 1

end RoundingInterval

/-- The digits and the grid of a positive number. Nine digits always single a number out, so
eleven grids from `coarsestGrid` on are enough. -/
def shortest (mantissa : Nat) (exponent : Int) : Nat × Int :=
  let i := RoundingInterval.ofMantissa mantissa exponent
  let grids := (List.range 11).map fun j => i.coarsestGrid - Int.ofNat j
  (grids.findSome? fun k => (i.pointOn? k).map fun n => (n, k)).getD (0, 0)

/-- The text of `n · 10 ^ k`. -/
def positional (n : Nat) (k : Int) : String :=
  let digits := Nat.toDigits 10 n
  if 0 ≤ k then String.ofList (digits ++ List.replicate k.toNat '0')
  else
    let places := (-k).toNat
    let padded := List.replicate (places + 1 - digits.length) '0' ++ digits
    let whole := padded.length - places
    String.ofList (padded.take whole ++ '.' :: padded.drop whole)

def signed (negative : Bool) (text : String) : String :=
  if negative then "-" ++ text else text

/-- The shortest text of a number; a zero keeps its sign. -/
def render (x : Float32) : String :=
  match Binary32.ofFloat32 x with
  | .nan => "NaN"
  | .infinite negative => signed negative "inf"
  | .finite negative mantissa exponent =>
    if mantissa = 0 then signed negative "0"
    else
      let (n, k) := shortest mantissa exponent
      signed negative (positional n k)

end TrafficChart.Decimal

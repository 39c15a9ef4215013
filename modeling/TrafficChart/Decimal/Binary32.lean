/-!
# The value of a single precision number

A finite number is `± mantissa · 2 ^ exponent` with an exact natural mantissa; this is the
form that printing and reading compute with.
-/

namespace TrafficChart.Decimal

inductive Binary32 where
  | nan
  | infinite (negative : Bool)
  | finite (negative : Bool) (mantissa : Nat) (exponent : Int)
  deriving DecidableEq

/-- The exponent of the subnormal numbers, the least one. -/
def leastExponent : Int := -149

/-- The mantissa at which a binade begins. -/
def leadingUnit : Nat := 8388608

/-- The biased exponent of NaN and the infinities. -/
def specialExponent : Nat := 255

namespace Binary32

def ofBits (bits : UInt32) : Binary32 :=
  let n := bits.toNat
  let negative := decide (2147483648 ≤ n)
  let biased := n / leadingUnit % 256
  let fraction := n % leadingUnit
  if biased = specialExponent then
    if fraction = 0 then .infinite negative else .nan
  else if biased = 0 then .finite negative fraction leastExponent
  else .finite negative (leadingUnit + fraction) (leastExponent + biased - 1)

def ofFloat32 (x : Float32) : Binary32 := ofBits x.toBits

end Binary32

/-- The power `2 ^ e` as a ratio of naturals. -/
def powerOfTwo (e : Int) : Nat × Nat := (Nat.pow 2 e.toNat, Nat.pow 2 (-e).toNat)

/-- The power `10 ^ e` as a ratio of naturals. -/
def powerOfTen (e : Int) : Nat × Nat := (Nat.pow 10 e.toNat, Nat.pow 10 (-e).toNat)

/-- The integer nearest to `num / den`; a half goes to the even neighbour. -/
def roundHalfEven (num den : Nat) : Nat :=
  let q := num / den
  let twice := 2 * (num % den)
  if den < twice ∨ (twice = den ∧ q % 2 = 1) then q + 1 else q

/-- The greatest exponent `e` for which `num / den` is at least `leadingUnit · 2 ^ e`, but not
below `leastExponent`. -/
def binadeOf (num den : Nat) : Int :=
  let guess : Int := (Nat.log2 num : Int) - (Nat.log2 den : Int) - 24
  let (up, down) := powerOfTwo guess
  let e := if 2 * leadingUnit * (den * up) ≤ num * down then guess + 1 else guess
  max leastExponent e

/-- The bits of the number nearest to `num / den`, infinity when that is beyond the range. A
mantissa that rounds up to the next binade carries into the exponent. -/
def nearestBits (num den : Nat) : Nat :=
  if num = 0 then 0
  else
    let e := binadeOf num den
    let (up, down) := powerOfTwo e
    let mantissa := roundHalfEven (num * down) (den * up)
    let bits :=
      if mantissa < leadingUnit then mantissa
      else (e - leastExponent + 1).toNat * leadingUnit + (mantissa - leadingUnit)
    min bits (specialExponent * leadingUnit)

/-- The number with the given sign and the bits of its magnitude. -/
def withSign (negative : Bool) (bits : Nat) : Float32 :=
  Float32.ofBits (UInt32.ofNat (if negative then 2147483648 + bits else bits))

def zero (negative : Bool) : Float32 := withSign negative 0

def infinity (negative : Bool) : Float32 := withSign negative (specialExponent * leadingUnit)

def nan : Float32 := withSign false (specialExponent * leadingUnit + leadingUnit / 2)

def nearestBinary32 (negative : Bool) (num den : Nat) : Float32 :=
  withSign negative (nearestBits num den)

end TrafficChart.Decimal

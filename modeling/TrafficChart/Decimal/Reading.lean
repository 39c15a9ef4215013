import TrafficChart.Decimal.Numeral
import TrafficChart.Decimal.Binary32

/-!
# Reading single precision numbers

A number is an optional sign followed by `inf`, `infinity` or `nan` in any case, or by digits
with at most one point and an optional exponent. There is a digit before or after the point.
The exact decimal value is rounded once.
-/

namespace TrafficChart.Decimal

inductive RealError where
  | empty
  | invalid
  deriving DecidableEq

def RealError.message : RealError → String
  | .empty => "cannot parse float from empty string"
  | .invalid => "invalid float literal"

/-- The number `coefficient · 10 ^ exponent`. -/
structure DecimalLiteral where
  coefficient : Nat
  exponent : Int

def isDigit (c : Char) : Bool := (digit? c).isSome

def valueOfDigits (digits : List Char) : Nat :=
  digits.foldl (fun n c => 10 * n + (digit? c).getD 0) 0

/-- The exponent after the letter, with its optional sign. -/
def exponentPart? (cs : List Char) : Option Int :=
  let (negative, digits) :=
    match cs with
    | '+' :: r => (false, r)
    | '-' :: r => (true, r)
    | r => (false, r)
  if digits.isEmpty ∨ ¬ digits.all isDigit then none
  else
    let n : Int := valueOfDigits digits
    some (if negative then -n else n)

def literal? (cs : List Char) : Option DecimalLiteral :=
  let whole := cs.takeWhile isDigit
  let rest := cs.dropWhile isDigit
  let (places, rest) :=
    match rest with
    | '.' :: r => (r.takeWhile isDigit, r.dropWhile isDigit)
    | r => ([], r)
  let coefficient := valueOfDigits (whole ++ places)
  if whole.isEmpty ∧ places.isEmpty then none
  else
    match rest with
    | [] => some ⟨coefficient, -places.length⟩
    | c :: r =>
      if c = 'e' ∨ c = 'E' then
        (exponentPart? r).map fun e => ⟨coefficient, e - places.length⟩
      else none

/-- The nearest number. Far outside the range of exponents the power of ten is not computed:
more than 60 places up or 80 places down the value is beyond every finite number or below half
of the least one. -/
def DecimalLiteral.toFloat32 (negative : Bool) (d : DecimalLiteral) : Float32 :=
  let magnitude : Int := d.exponent + (Nat.toDigits 10 d.coefficient).length
  if d.coefficient = 0 ∨ magnitude < -80 then zero negative
  else if 60 < magnitude then infinity negative
  else
    let (up, down) := powerOfTen d.exponent
    nearestBinary32 negative (d.coefficient * up) down

def magnitudeOf? (negative : Bool) (cs : List Char) : Option Float32 :=
  let word := String.ofList (cs.map Char.toLower)
  if word = "inf" ∨ word = "infinity" then some (infinity negative)
  else if word = "nan" then some nan
  else (literal? cs).map (DecimalLiteral.toFloat32 negative)

/-- The number of a text. -/
def readFloat32 (text : String) : Except RealError Float32 :=
  let found :=
    match text.toList with
    | '+' :: cs => magnitudeOf? false cs
    | '-' :: cs => magnitudeOf? true cs
    | cs => magnitudeOf? false cs
  match text.toList, found with
  | [], _ => .error .empty
  | _, some x => .ok x
  | _, none => .error .invalid

end TrafficChart.Decimal

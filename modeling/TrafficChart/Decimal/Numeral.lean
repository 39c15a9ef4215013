/-!
# Reading integers

A numeral is an optional sign and decimal digits, nothing else. Reading goes from left to
right and reports the first fault: a character that is no digit, or the digit that leaves the
range.
-/

namespace TrafficChart.Decimal

inductive NumeralError where
  | empty
  | invalidDigit
  | tooLarge
  | tooSmall
  deriving DecidableEq

def NumeralError.message : NumeralError → String
  | .empty => "cannot parse integer from empty string"
  | .invalidDigit => "invalid digit found in string"
  | .tooLarge => "number too large to fit in target type"
  | .tooSmall => "number too small to fit in target type"

def digit? (c : Char) : Option Nat :=
  if '0' ≤ c ∧ c ≤ '9' then some (c.toNat - 48) else none

/-- The number that digits spell, appended to `value` and kept at most `limit`. -/
def readDigits (limit : Nat) (beyond : NumeralError) : Nat → List Char → Except NumeralError Nat
  | value, [] => .ok value
  | value, c :: rest =>
    match digit? c with
    | none => .error .invalidDigit
    | some d =>
      if limit < 10 * value + d then .error beyond
      else readDigits limit beyond (10 * value + d) rest

/-- At least one digit. -/
def readMagnitude (limit : Nat) (beyond : NumeralError) (digits : List Char) :
    Except NumeralError Nat :=
  if digits.isEmpty then .error .invalidDigit else readDigits limit beyond 0 digits

/-- A signed 64-bit integer. -/
def readInt64 (text : String) : Except NumeralError Int64 :=
  match text.toList with
  | [] => .error .empty
  | '+' :: digits => do
    let n ← readMagnitude 9223372036854775807 .tooLarge digits
    return Int64.ofNat n
  | '-' :: digits => do
    let n ← readMagnitude 9223372036854775808 .tooSmall digits
    return Int64.ofInt (-n)
  | digits => do
    let n ← readMagnitude 9223372036854775807 .tooLarge digits
    return Int64.ofNat n

/-- An unsigned 64-bit integer. A minus sign is no digit. -/
def readUInt64 (text : String) : Except NumeralError UInt64 :=
  match text.toList with
  | [] => .error .empty
  | '+' :: digits => do
    let n ← readMagnitude 18446744073709551615 .tooLarge digits
    return UInt64.ofNat n
  | digits => do
    let n ← readMagnitude 18446744073709551615 .tooLarge digits
    return UInt64.ofNat n

end TrafficChart.Decimal

import TrafficChart.Saturating

/-!
# Overflow

Where a sum is not meant to be saturated, its exact value has to fit into the word that holds it.
If it does not, the computation stops there. That is no refusal: nothing was wrong with what was
asked for, and no one is told a reason but the operation. `Stop` joins both ways to end without a
result.
-/

namespace TrafficChart

/-- The operation whose value does not fit. -/
inductive Overflow where
  | addition
  | subtraction
  | multiplication
  | negation
  deriving DecidableEq

def Overflow.message : Overflow → String
  | .addition => "attempt to add with overflow"
  | .subtraction => "attempt to subtract with overflow"
  | .multiplication => "attempt to multiply with overflow"
  | .negation => "attempt to negate with overflow"

/-- Why a computation ends without a result. -/
inductive Stop (ε : Type) where
  | refused (reason : ε)
  | overflow (operation : Overflow)
  deriving DecidableEq

/-- The reason told in other words. -/
def Stop.map {ε ε' : Type} (f : ε → ε') : Stop ε → Stop ε'
  | .refused reason => .refused (f reason)
  | .overflow operation => .overflow operation

/-- The outcome of an operation on unsigned words of 128 bits. -/
def word128 (operation : Overflow) (n : Nat) : Except Overflow Nat :=
  if n < 340282366920938463463374607431768211456 then .ok n else .error operation

theorem word128_of_lt (operation : Overflow) {n : Nat}
    (h : n < 340282366920938463463374607431768211456) : word128 operation n = .ok n := if_pos h

theorem word128_of_le (operation : Overflow) {n : Nat}
    (h : 340282366920938463463374607431768211456 ≤ n) : word128 operation n = .error operation :=
  if_neg (Nat.not_lt.2 h)

/-- The integer is representable as an instant. -/
def InRange (n : Int) : Prop := -9223372036854775808 ≤ n ∧ n ≤ 9223372036854775807

instance (n : Int) : Decidable (InRange n) := inferInstanceAs (Decidable (_ ∧ _))

theorem toInt_clampInt64_of_inRange {n : Int} (h : InRange n) : (clampInt64 n).toInt = n := by
  obtain ⟨hlow, hhigh⟩ := h
  rw [toInt_clampInt64]
  omega

/-- The outcome of an operation on signed words of 64 bits. -/
def word64 (operation : Overflow) (n : Int) : Except Overflow Int64 :=
  if InRange n then .ok (clampInt64 n) else .error operation

theorem word64_of_inRange (operation : Overflow) {n : Int} (h : InRange n) :
    word64 operation n = .ok (clampInt64 n) := if_pos h

end TrafficChart

import TrafficChart.Calendar.Units
import TrafficChart.Overflow
import TrafficChart.Refusal

/-!
# Forecast settings

A forecast adds, for every future bucket, the weighted mean of two rates: that of a trailing
window, the trend, and that of the same time one season earlier. The weighted sum of the rates is
formed in 128 bits, where it fits as long as the weights are not near their greatest values.
-/

namespace TrafficChart

structure ForecastSettings where
  /-- The trailing window of the trend. -/
  trendWindow : Int64
  /-- The window of the seasonal rate; it ends one season before the projected time. -/
  seasonalWindow : Int64
  /-- The seasonal period. -/
  season : Int64
  trendWeight : UInt64
  seasonalWeight : UInt64
  /-- How many buckets are projected at most. -/
  stepLimit : Nat
  deriving DecidableEq

namespace ForecastSettings

/-- Two weeks and one day, seven parts to three, over a weekly season. -/
def standard : ForecastSettings where
  trendWindow := 2 * oneWeek
  seasonalWindow := oneDay
  season := oneWeek
  trendWeight := 7
  seasonalWeight := 3
  stepLimit := 100000

/-- The first fault of the settings, if any. -/
def fault? (s : ForecastSettings) : Option SettingsFault :=
  if s.trendWindow ≤ 0 ∨ s.seasonalWindow ≤ 0 then some .emptyWindow
  else if s.season ≤ 0 then some .emptySeason
  else if s.trendWeight = 0 ∧ s.seasonalWeight = 0 then some .noWeight
  else if s.stepLimit = 0 then some .noSteps
  else none

def validate (s : ForecastSettings) : Except Refusal Unit :=
  match s.fault? with
  | some fault => .error (.settings fault)
  | none => .ok ()

/-- What a forecast may rely on. -/
def Valid (s : ForecastSettings) : Prop :=
  0 < s.trendWindow ∧ 0 < s.seasonalWindow ∧ 0 < s.season ∧
    ¬ (s.trendWeight = 0 ∧ s.seasonalWeight = 0) ∧ s.stepLimit ≠ 0

instance (s : ForecastSettings) : Decidable s.Valid := inferInstanceAs (Decidable (_ ∧ _))

theorem fault?_eq_none_iff (s : ForecastSettings) : s.fault? = none ↔ s.Valid := by
  unfold fault? Valid
  rw [← Int64.not_le, ← Int64.not_le, ← Int64.not_le]
  grind

theorem validate_eq_ok_iff (s : ForecastSettings) : s.validate = .ok () ↔ s.Valid := by
  rw [← fault?_eq_none_iff, validate]
  split <;> simp_all

theorem standard_valid : standard.Valid := by decide

/-- Both weights together. -/
def weight (s : ForecastSettings) : Nat := s.trendWeight.toNat + s.seasonalWeight.toNat

/-- The weighted mean of the two rates, rounded down, computed on words of 128 bits. -/
def mean (s : ForecastSettings) (trend seasonal : UInt64) : Except Overflow UInt64 := do
  let trendPart ← word128 .multiplication (trend.toNat * s.trendWeight.toNat)
  let seasonalPart ← word128 .multiplication (seasonal.toNat * s.seasonalWeight.toNat)
  let sum ← word128 .addition (trendPart + seasonalPart)
  let weight ← word128 .addition s.weight
  return clampUInt64 (sum / max weight 1)

end ForecastSettings

end TrafficChart

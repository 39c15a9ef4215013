import Mathlib.Algebra.Order.Ring.Nat
import TrafficChart.Forecast.Settings

/-!
# The mean of two rates

The weighted sum of two rates is formed in 128 bits. Each of its terms fits into that, but both
together may not. That is the only way for the mean to overflow: the weights can always be added up,
and the quotient lies between the rates, so that no clamp is needed. Weights of up to 2^64 + 1
together never overflow.
-/

namespace TrafficChart

namespace ForecastSettings

variable {s : ForecastSettings} {trend seasonal trend' seasonal' : UInt64}

/-- Both rates together, each as often as its weight says. -/
def weightedSum (s : ForecastSettings) (trend seasonal : UInt64) : Nat :=
  trend.toNat * s.trendWeight.toNat + seasonal.toNat * s.seasonalWeight.toNat

/-- The mean of two rates, without an upper limit to their weighted sum. -/
def exactMean (s : ForecastSettings) (trend seasonal : UInt64) : UInt64 :=
  clampUInt64 (s.weightedSum trend seasonal / max s.weight 1)

/-- The weighted sum of the rates is a word of 128 bits. -/
def Fits (s : ForecastSettings) (trend seasonal : UInt64) : Prop :=
  s.weightedSum trend seasonal < 2 ^ 128

instance (s : ForecastSettings) (trend seasonal : UInt64) : Decidable (s.Fits trend seasonal) :=
  inferInstanceAs (Decidable (_ < _))

/-! ## What fits -/

theorem weight_pos (hs : s.Valid) : 0 < s.weight := by
  obtain ⟨-, -, -, hweight, -⟩ := hs
  simp only [← UInt64.toNat_inj, UInt64.toNat_zero] at hweight
  simp only [weight]
  omega

theorem weight_lt_two_pow (s : ForecastSettings) : s.weight < 2 ^ 128 :=
  Nat.lt_trans (Nat.add_lt_add s.trendWeight.toNat_lt s.seasonalWeight.toNat_lt) (by decide)

theorem mul_toNat_lt_two_pow (a b : UInt64) : a.toNat * b.toNat < 2 ^ 128 :=
  calc a.toNat * b.toNat < 2 ^ 64 * 2 ^ 64 := Nat.mul_lt_mul'' a.toNat_lt b.toNat_lt
    _ = 2 ^ 128 := by decide

theorem weightedSum_mono (h : trend ≤ trend') (h' : seasonal ≤ seasonal') :
    s.weightedSum trend seasonal ≤ s.weightedSum trend' seasonal' := by
  rw [UInt64.le_iff_toNat_le] at h h'
  exact Nat.add_le_add (Nat.mul_le_mul_right _ h) (Nat.mul_le_mul_right _ h')

theorem Fits.mono (hfits : s.Fits trend' seasonal') (h : trend ≤ trend')
    (h' : seasonal ≤ seasonal') : s.Fits trend seasonal :=
  Nat.lt_of_le_of_lt (weightedSum_mono h h') hfits

theorem min_mul_weight_le (s : ForecastSettings) (trend seasonal : UInt64) :
    min trend.toNat seasonal.toNat * s.weight ≤ s.weightedSum trend seasonal := by
  simp only [weight, Nat.mul_add]
  exact Nat.add_le_add (Nat.mul_le_mul_right _ (Nat.min_le_left _ _))
    (Nat.mul_le_mul_right _ (Nat.min_le_right _ _))

theorem weightedSum_le_max_mul (s : ForecastSettings) (trend seasonal : UInt64) :
    s.weightedSum trend seasonal ≤ max trend.toNat seasonal.toNat * s.weight := by
  simp only [weight, Nat.mul_add]
  exact Nat.add_le_add (Nat.mul_le_mul_right _ (Nat.le_max_left _ _))
    (Nat.mul_le_mul_right _ (Nat.le_max_right _ _))

theorem fits_of_weight_le (h : s.weight ≤ 2 ^ 64 + 1) (trend seasonal : UInt64) :
    s.Fits trend seasonal := by
  have hmax : max trend.toNat seasonal.toNat ≤ 2 ^ 64 - 1 :=
    Nat.max_le.2 ⟨Nat.le_pred_of_lt trend.toNat_lt, Nat.le_pred_of_lt seasonal.toNat_lt⟩
  calc s.weightedSum trend seasonal
      ≤ max trend.toNat seasonal.toNat * s.weight := s.weightedSum_le_max_mul trend seasonal
    _ ≤ (2 ^ 64 - 1) * (2 ^ 64 + 1) := Nat.mul_le_mul hmax h
    _ < 2 ^ 128 := by decide

/-- All rates fit exactly if the weights together exceed the range of a byte count by one at
most. -/
theorem fits_iff_weight_le (s : ForecastSettings) :
    (∀ trend seasonal, s.Fits trend seasonal) ↔ s.weight ≤ 2 ^ 64 + 1 := by
  refine ⟨fun hfits => ?_, fits_of_weight_le⟩
  have hmost : s.weightedSum 18446744073709551615 18446744073709551615 < 2 ^ 128 := hfits _ _
  have hsum : s.weightedSum 18446744073709551615 18446744073709551615 =
      18446744073709551615 * s.weight := (Nat.mul_add _ _ _).symm
  omega

/-! ## The mean -/

/-- Of all operations only the addition of the two products can overflow. -/
theorem mean_eq (s : ForecastSettings) (trend seasonal : UInt64) :
    s.mean trend seasonal =
      if s.Fits trend seasonal then .ok (s.exactMean trend seasonal) else .error .addition := by
  rw [mean, word128_of_lt _ (mul_toNat_lt_two_pow trend s.trendWeight),
    word128_of_lt _ (mul_toNat_lt_two_pow seasonal s.seasonalWeight),
    word128_of_lt _ s.weight_lt_two_pow]
  by_cases hfits : s.Fits trend seasonal
  · have hsum := word128_of_lt .addition hfits
    rw [if_pos hfits]
    simp only [weightedSum] at hsum
    simp only [hsum, bind, Except.bind]
    rfl
  · have hsum := word128_of_le .addition (Nat.not_lt.1 hfits)
    rw [if_neg hfits]
    simp only [weightedSum] at hsum
    simp only [hsum, bind, Except.bind]

theorem mean_of_fits (h : s.Fits trend seasonal) :
    s.mean trend seasonal = .ok (s.exactMean trend seasonal) := by
  rw [mean_eq, if_pos h]

theorem mean_eq_ok_iff {m : UInt64} :
    s.mean trend seasonal = .ok m ↔ s.Fits trend seasonal ∧ m = s.exactMean trend seasonal := by
  rw [mean_eq]
  by_cases hfits : s.Fits trend seasonal <;> simp [hfits, eq_comm]

theorem weightedSum_div_le (s : ForecastSettings) (trend seasonal : UInt64) :
    s.weightedSum trend seasonal / s.weight ≤ max trend.toNat seasonal.toNat :=
  Nat.div_le_of_le_mul (by
    rw [Nat.mul_comm]
    exact s.weightedSum_le_max_mul trend seasonal)

theorem min_le_weightedSum_div (hs : s.Valid) (trend seasonal : UInt64) :
    min trend.toNat seasonal.toNat ≤ s.weightedSum trend seasonal / s.weight :=
  (Nat.le_div_iff_mul_le (weight_pos hs)).2 (s.min_mul_weight_le trend seasonal)

/-- The quotient is a byte count before any clamp. -/
theorem toNat_exactMean (hs : s.Valid) (trend seasonal : UInt64) :
    (s.exactMean trend seasonal).toNat = s.weightedSum trend seasonal / s.weight := by
  have hmax := s.weightedSum_div_le trend seasonal
  have htrend := trend.toNat_lt
  have hseasonal := seasonal.toNat_lt
  rw [exactMean, toNat_clampUInt64, Nat.max_eq_left (weight_pos hs)]
  omega

/-- The mean of a rate and itself is that rate. -/
theorem mean_self (hs : s.Valid) (hweight : s.weight ≤ 2 ^ 64 + 1) (rate : UInt64) :
    s.mean rate rate = .ok rate := by
  have hmin := min_le_weightedSum_div hs rate rate
  have hmax := s.weightedSum_div_le rate rate
  have hmean : s.exactMean rate rate = rate := by
    rw [← UInt64.toNat_inj, toNat_exactMean hs]
    omega
  rw [mean_of_fits (fits_of_weight_le hweight rate rate), hmean]

theorem mean_zero (s : ForecastSettings) : s.mean 0 0 = .ok 0 := by
  have hfits : s.Fits 0 0 := by simp [Fits, weightedSum]
  rw [mean_of_fits hfits]
  simp [exactMean, weightedSum, clampUInt64]

/-- Whatever the rates, each term of their weighted sum and both weights together are words of 128
bits. The mean is the weighted mean, rounded down, if the weighted sum is such a word as well, and
overflows otherwise. It lies between the rates and grows with them, also in whether it overflows.
And no rates overflow exactly if the weights together are at most 2^64 + 1. -/
theorem mean_eq_ok_iff_fits (hs : s.Valid) (trend seasonal : UInt64) :
    (trend.toNat * s.trendWeight.toNat < 2 ^ 128 ∧
      seasonal.toNat * s.seasonalWeight.toNat < 2 ^ 128 ∧ s.weight < 2 ^ 128) ∧
    (∀ m, s.mean trend seasonal = .ok m ↔
      s.Fits trend seasonal ∧ m.toNat = s.weightedSum trend seasonal / s.weight) ∧
    (s.mean trend seasonal = .error .addition ↔ ¬ s.Fits trend seasonal) ∧
    (∀ m, s.mean trend seasonal = .ok m →
      min trend.toNat seasonal.toNat ≤ m.toNat ∧ m.toNat ≤ max trend.toNat seasonal.toNat) ∧
    (∀ trend' seasonal' m', trend ≤ trend' → seasonal ≤ seasonal' →
      s.mean trend' seasonal' = .ok m' → ∃ m ≤ m', s.mean trend seasonal = .ok m) ∧
    ((∀ trend seasonal, ∃ m, s.mean trend seasonal = .ok m) ↔ s.weight ≤ 2 ^ 64 + 1) := by
  refine ⟨⟨mul_toNat_lt_two_pow .., mul_toNat_lt_two_pow .., s.weight_lt_two_pow⟩,
    fun m => ?_, ?_, fun m hm => ?_, fun trend' seasonal' m' h h' hm' => ?_, ?_⟩
  · rw [mean_eq_ok_iff, ← UInt64.toNat_inj, toNat_exactMean hs]
  · rw [mean_eq]
    by_cases hfits : s.Fits trend seasonal <;> simp [hfits]
  · obtain ⟨-, rfl⟩ := mean_eq_ok_iff.1 hm
    rw [toNat_exactMean hs]
    exact ⟨min_le_weightedSum_div hs trend seasonal, s.weightedSum_div_le trend seasonal⟩
  · obtain ⟨hfits', rfl⟩ := mean_eq_ok_iff.1 hm'
    refine ⟨_, ?_, mean_of_fits (hfits'.mono h h')⟩
    rw [UInt64.le_iff_toNat_le, toNat_exactMean hs, toNat_exactMean hs]
    exact Nat.div_le_div_right (weightedSum_mono h h')
  · simp only [mean_eq_ok_iff, exists_and_left, exists_eq, and_true]
    exact s.fits_iff_weight_le

/-- The trend has the greatest weight there is, and the seasonal rate the greatest one with which
no rates overflow. -/
theorem mean_of_heavy_trend :
    let most : UInt64 := 18446744073709551615
    let s : ForecastSettings := { standard with trendWeight := most, seasonalWeight := 2 }
    s.Valid ∧ s.mean most 1000 = .ok 18446744073709551613 ∧
      ∀ trend seasonal, ∃ m, s.mean trend seasonal = .ok m := by
  intro most s
  have hs : s.Valid := by decide
  obtain ⟨-, hmean, -, -, -, hall⟩ := mean_eq_ok_iff_fits hs most 1000
  exact ⟨hs, (hmean 18446744073709551613).2 (by decide), hall.2 (by decide)⟩

/-- With two weights that are as great, the greatest rates overflow. -/
theorem mean_overflows_of_equal_rates :
    let most : UInt64 := 18446744073709551615
    let s : ForecastSettings := { standard with trendWeight := most, seasonalWeight := most }
    s.Valid ∧ s.mean most most = .error .addition := by
  decide

end ForecastSettings

end TrafficChart

import TrafficChart.Proofs.Forecast.ClosedForm
import TrafficChart.Proofs.Forecast.Windows
import TrafficChart.Proofs.History.Steady

/-!
# Forecasts of a steady past

If windows and season are made of whole buckets, every window that a forecast from the end of a
steady history asks for is a window of whole buckets. Then both rates are the bytes of one bucket,
without any loss to rounding, and so is their mean: the projection goes on at the same rate.
-/

namespace TrafficChart

namespace Steady

/-- The windows and the season of the settings are made of whole buckets, the history is long enough
for all windows, and bytes and weights can be added up. -/
structure Serves (s : Steady) (settings : ForecastSettings) : Prop where
  trend_dvd : s.bucketLength.toInt ∣ settings.trendWindow.toInt
  seasonal_dvd : s.bucketLength.toInt ∣ settings.seasonalWindow.toInt
  season_dvd : s.bucketLength.toInt ∣ settings.season.toInt
  covers : max settings.trendWindow.toInt (settings.season.toInt + settings.seasonalWindow.toInt) ≤
    s.count * s.bucketLength.toInt
  trend_fits : settings.trendWindow.toInt / s.bucketLength.toInt * (s.rx.toNat + s.tx.toNat) ≤
    18446744073709551615
  seasonal_fits :
    settings.seasonalWindow.toInt / s.bucketLength.toInt * (s.rx.toNat + s.tx.toNat) ≤
      18446744073709551615
  weights_fit : settings.trendWeight.toNat + settings.seasonalWeight.toNat ≤ 18446744073709551615

variable {s : Steady}

/-- What a bucket adds to the total. -/
def rate (s : Steady) : UInt64 := (s.bucketAt 0).total

/-- A length that is made of whole buckets. -/
theorem exists_count {length : Int64} (hlength : 0 < length)
    (hdvd : s.bucketLength.toInt ∣ length.toInt) :
    ∃ m : ℕ, 0 < m ∧ length.toInt = m * s.bucketLength.toInt := by
  obtain ⟨m, hm⟩ := hdvd
  have hpos : 0 < length.toInt := Int64.lt_iff_toInt_lt.1 hlength
  rw [hm] at hpos
  have hm' : 0 < m := pos_of_mul_pos_right hpos s.toInt_bucketLength_pos.le
  refine ⟨m.toNat, by omega, ?_⟩
  rw [hm, Int.toNat_of_nonneg hm'.le, Int.mul_comm]

theorem count_fits {m : ℕ} {length : Int64} (hlength : length.toInt = m * s.bucketLength.toInt)
    (hfits : length.toInt / s.bucketLength.toInt * (s.rx.toNat + s.tx.toNat) ≤
      18446744073709551615) : m * (s.rx.toNat + s.tx.toNat) ≤ 18446744073709551615 := by
  rw [hlength, Int.mul_ediv_cancel _ s.toInt_bucketLength_pos.ne'] at hfits
  exact_mod_cast hfits

theorem toNat_rate_of_fits {m : ℕ} (hm : 0 < m)
    (hfits : m * (s.rx.toNat + s.tx.toNat) ≤ 18446744073709551615) :
    s.rate.toNat = s.rx.toNat + s.tx.toNat :=
  (Bucket.toNat_total _).trans (min_eq_left ((Nat.le_mul_of_pos_left _ hm).trans hfits))

/-- The rate of a window of whole buckets is that of each bucket, if its bytes can be added up. -/
theorem ratePerBucket_edge {m i : ℕ} (hm : 0 < m) (hmi : m ≤ i) (hi : i ≤ s.count) {length : Int64}
    (hlength : length.toInt = m * s.bucketLength.toInt)
    (hfits : m * (s.rx.toNat + s.tx.toNat) ≤ 18446744073709551615) (now : Int64) :
    ratePerBucket s.toHistory (satSub (s.edge i) length) (s.edge i) now s.bucketLength =
      s.rate := by
  have hd := s.toInt_bucketLength_pos
  have hcount : i - (i - m) = m := Nat.sub_sub_self hmi
  let window := s.toHistory.usage (s.edge (i - m)) (s.edge i) now
  have htotal : window.total.toNat = m * s.rate.toNat := by
    rw [total_usage (by omega) hi (by rwa [hcount]), hcount, toNat_rate_of_fits hm hfits]
  have hduration : window.duration.toInt = m * s.bucketLength.toInt := by
    have hmax := length.toInt_lt
    rw [duration_usage (by omega) hi (by rw [hcount]; omega), hcount]
  have hle : s.bucketLength.toInt ≤ window.duration.toInt := by
    rw [hduration]
    exact le_mul_of_one_le_left hd.le (Int.ofNat_le.2 hm)
  rw [satSub_edge hi hmi hlength]
  apply UInt64.toNat_inj.1
  apply Int.ofNat.inj
  calc ((share window.total s.bucketLength.toInt window.duration.toInt).toNat : Int)
      = s.rate.toNat * (m * s.bucketLength.toInt) / (m * s.bucketLength.toInt) := by
        rw [toInt_share_of_le window.total hd hle, htotal, hduration, Nat.cast_mul, mul_assoc,
          mul_left_comm]
    _ = s.rate.toNat := Int.mul_ediv_cancel _ (hd.trans_le (hduration ▸ hle)).ne'

theorem Serves.weight_le {settings : ForecastSettings} (hserves : s.Serves settings) :
    settings.weight ≤ 2 ^ 64 + 1 := hserves.weights_fit.trans (by decide)

theorem Serves.toNat_rate {settings : ForecastSettings} (hserves : s.Serves settings)
    (hs : settings.Valid) : s.rate.toNat = s.rx.toNat + s.tx.toNat := by
  obtain ⟨m, hm, htrend⟩ := s.exists_count hs.1 hserves.trend_dvd
  exact toNat_rate_of_fits hm (count_fits htrend hserves.trend_fits)

end Steady

namespace Forecast

variable {s : Steady} {f : Forecast} {settings : ForecastSettings}

/-- The seasonal windows of a forecast from the end of a steady history end at its edges. -/
theorem anchor_eq_edge (htime : f.time = s.edge s.count) {q : ℕ} (hq : 0 < q) (hqc : q ≤ s.count)
    (hseason : f.settings.season.toInt = q * s.bucketLength.toInt) {k : ℕ} {ahead : Int64}
    (hahead : ahead.toInt = k * s.bucketLength.toInt) :
    f.anchor ahead = s.edge (s.count - q + k % q) := by
  have hd := s.toInt_bucketLength_pos
  have hmod : k % q < q := Nat.mod_lt k hq
  have hpos : 0 < f.settings.season := by
    rw [Int64.lt_iff_toInt_lt, hseason]
    exact Int.mul_pos (Int.ofNat_lt.2 hq) hd
  have hback : f.time.toInt - f.settings.season.toInt = (s.edge (s.count - q)).toInt := by
    rw [htime, Steady.toInt_edge le_rfl, hseason, Steady.toInt_edge (Nat.sub_le _ _),
      Int.ofNat_sub hqc, Int.sub_mul]
    omega
  have hphase : ahead.toInt % f.settings.season.toInt = (k % q : ℕ) * s.bucketLength.toInt := by
    rw [hahead, hseason, Int.mul_comm k, Int.mul_comm q, Int.mul_emod_mul_of_pos _ _ hd,
      Int.mul_comm, Int.natCast_emod]
  apply Int64.toInt_inj.1
  rw [toInt_anchor hpos (hback ▸ (s.edge (s.count - q)).le_toInt), hback, hphase,
    Steady.toInt_edge (Nat.sub_le _ _), Steady.toInt_edge (by omega), Nat.cast_add, Int.add_mul,
    Int.add_assoc]

/-- Each step of a forecast from the end of a steady history adds the bytes of one bucket. -/
theorem increment_of_steady (hs : settings.Valid) (hserves : s.Serves settings) (axes : Axes)
    (width : Float32) {time : Int64} (htime : time = s.edge s.count) (now : Int64) {k : ℕ}
    (hk : k * s.bucketLength.toInt ≤ 9223372036854775807) :
    (ofSource s.toHistory axes width time now settings).increment
      (clampInt64 (k * s.bucketLength.toInt)) = .ok s.rate := by
  have hd := s.toInt_bucketLength_pos
  obtain ⟨m, hm, htrend⟩ := s.exists_count hs.1 hserves.trend_dvd
  obtain ⟨w, hw, hwindow⟩ := s.exists_count hs.2.1 hserves.seasonal_dvd
  obtain ⟨q, hq, hseason⟩ := s.exists_count hs.2.2.1 hserves.season_dvd
  obtain ⟨hmc, hqwc⟩ : m ≤ s.count ∧ q + w ≤ s.count := by
    have hcovers := hserves.covers
    rw [htrend, hseason, hwindow, ← Int.add_mul, max_le_iff] at hcovers
    constructor
    · exact Int.ofNat_le.1 (Int.le_of_mul_le_mul_right hcovers.1 hd)
    · exact_mod_cast Int.le_of_mul_le_mul_right hcovers.2 hd
  have hahead : (clampInt64 (k * s.bucketLength.toInt)).toInt = k * s.bucketLength.toInt := by
    have hnonneg : 0 ≤ (k : Int) * s.bucketLength.toInt := Int.mul_nonneg k.cast_nonneg hd.le
    rw [toInt_clampInt64]
    omega
  have hanchor := anchor_eq_edge (f := ofSource s.toHistory axes width time now settings) htime hq
    (by omega) hseason hahead
  have hmod : k % q < q := Nat.mod_lt k hq
  have hmean : settings.mean s.rate s.rate = .ok s.rate :=
    ForecastSettings.mean_self hs hserves.weight_le s.rate
  rw [increment_ofSource, hanchor, htime]
  exact (congrArg₂ settings.mean
    (Steady.ratePerBucket_edge hm hmc le_rfl htrend (s.count_fits htrend hserves.trend_fits) now)
    (Steady.ratePerBucket_edge hw (by omega) (by omega) hwindow
      (s.count_fits hwindow hserves.seasonal_fits) now)).trans hmean

end Forecast

namespace Projection

/-- The projection from the end of a steady history, under settings that it serves, adds the bytes
of one bucket at every step, as long as the time ahead of the origin is representable. So it does
when it is stopped after any number of its steps, and the curve up to there is the same. -/
theorem ofSource_steady (s : Steady) {settings : ForecastSettings} (hs : settings.Valid)
    (hserves : s.Serves settings) (axes : Axes) {viewport : Viewport} (hv : viewport.Valid)
    (origin : Origin)
    (htime : origin.time.toInt = s.start.toInt + s.count * s.bucketLength.toInt) (now : Int64) :
    let h := s.toHistory
    let rate := s.rx.toNat + s.tx.toNat
    let f := Forecast.ofSource h axes viewport.width origin.time now settings
    History.ofBuckets s.bucketLength h.toList = .ok h ∧
    ∃ p, ofSource h axes viewport origin now settings = .ok p ∧
      ∀ k ≤ p.steps, k * s.bucketLength.toInt ≤ 9223372036854775807 →
        ∃ q gain, f.run k origin.point.x 0 (start origin) = .ok q ∧
          q.steps = k ∧ q.outline.toList = p.outline.toList.take (k + 1) ∧
          f.increment (clampInt64 (k * s.bucketLength.toInt)) = .ok gain ∧ gain.toNat = rate ∧
          q.total.toNat = min 18446744073709551615 (origin.total.toNat + k * rate) ∧
          (k = p.steps → p.total = q.total) := by
  intro h rate f
  have hd := s.toInt_bucketLength_pos
  have hf : 0 < f.bucketLength.toInt := hd
  have hend : origin.time = s.edge s.count := by
    rw [← Int64.toInt_inj, htime, Steady.toInt_edge le_rfl]
  have hfits (limit : ℕ) : f.RunFits limit origin.point.x 0 :=
    Forecast.runFits_of_weight_le hserves.weight_le limit _ _
  obtain ⟨n, -, -, -, -, hplot⟩ := Forecast.plot_start_after hf origin settings.stepLimit
  refine ⟨s.ofBuckets_toHistory, _, ofSource_of_fits s.bucketLength_pos hv hs (hfits _), ?_⟩
  intro k hk hrange
  have hstep (j : ℕ) (hj : j ≤ k) : f.increment (f.aheadAt j) = .ok s.rate := by
    refine Forecast.increment_of_steady hs hserves axes _ hend now (le_trans ?_ hrange)
    exact Int.mul_le_mul_of_nonneg_right (Int.ofNat_le.2 hj) hd.le
  have htotal : (f.totalAt origin.total k).toNat =
      min 18446744073709551615 (origin.total.toNat + k * rate) := by
    rw [Forecast.totalAt_of_gain_eq fun j _ hj =>
      (Forecast.increment_eq_ok_iff.1 (hstep j hj)).2.symm, toNat_clampUInt64,
      hserves.toNat_rate hs, min_comm]
  refine ⟨_, s.rate, Forecast.run_of_runFits (hfits k) _, ?_⟩
  rw [Forecast.plot_start_of_le hf origin hk]
  rw [plot, hplot] at hk ⊢
  refine ⟨rfl, (f.toList_outline_after_take origin hk).symm, hstep k le_rfl,
    hserves.toNat_rate hs, htotal, ?_⟩
  rintro rfl
  rfl

/-- Six buckets from 25 milliseconds before the epoch on, of which the fifth is being filled, and
three steps from their end to beyond the right edge. -/
theorem ofSource_of_six_buckets :
    ∃ s : Steady, s.toHistory = ⟨10, #[⟨-25, 10, 3, 1⟩, ⟨-15, 10, 3, 1⟩, ⟨-5, 10, 3, 1⟩,
        ⟨5, 10, 3, 1⟩, ⟨15, 10, 3, 1⟩, ⟨25, 10, 3, 1⟩]⟩ ∧
      let settings : ForecastSettings := ⟨20, 10, 30, 2, 1, 5⟩
      let axes : Axes := ⟨fun t => if t ≤ 60 then 5 else 60, fun _ => 90⟩
      settings.Valid ∧ s.Serves settings ∧ Viewport.Valid ⟨50, 90⟩ ∧
        ∃ p, ofSource s.toHistory axes ⟨50, 90⟩ ⟨⟨5, 90⟩, 35, 7⟩ 22 settings = .ok p ∧
          p.steps = 3 ∧ p.total.toNat = 7 + 3 * 4 := by
  let s : Steady := ⟨-25, 10, 3, 1, 6, by decide, by decide⟩
  let settings : ForecastSettings := ⟨20, 10, 30, 2, 1, 5⟩
  let axes : Axes := ⟨fun t => if t ≤ 60 then 5 else 60, fun _ => 90⟩
  have hs : settings.Valid := by decide
  have hv : Viewport.Valid ⟨50, 90⟩ := by decide
  have hserves : s.Serves settings := by
    constructor <;> decide
  obtain ⟨-, p, hp, hsteady⟩ :=
    ofSource_steady s hs hserves axes hv ⟨⟨5, 90⟩, 35, 7⟩ (by decide) 22
  have hsteps : p.steps = 3 := by
    have hrun : ((ofSource s.toHistory axes ⟨50, 90⟩ ⟨⟨5, 90⟩, 35, 7⟩ 22 settings).map
        steps).toOption = some 3 := by decide +kernel
    rw [hp] at hrun
    exact Option.some.inj hrun
  refine ⟨s, by decide, hs, hserves, hv, p, hp, hsteps, ?_⟩
  obtain ⟨q, -, -, -, -, -, -, htotal, hlast⟩ := hsteady 3 hsteps.ge (by decide)
  rw [hlast hsteps.symm, htotal]
  decide

end Projection

end TrafficChart

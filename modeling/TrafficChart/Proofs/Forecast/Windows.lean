import Mathlib.Tactic
import TrafficChart.Forecast.Projection

/-!
# Windows of a forecast

A forecast asks its source for the usage of a trailing window, which ends at the origin, and of
seasonal windows, which end within the season before the origin. It depends on the source through
these windows and the bucket length alone.
-/

namespace TrafficChart

namespace Forecast

/-- The windows that a forecast asks for: that of the trend, and the seasonal ones. -/
def Asks (f : Forecast) (start finish : Int64) : Prop :=
  (start = satSub f.time f.settings.trendWindow ∧ finish = f.time) ∨
    ∃ ahead, start = satSub (f.anchor ahead) f.settings.seasonalWindow ∧ finish = f.anchor ahead

/-- Each step adds the mean of the rates in two of these windows. -/
theorem increment_ofSource {σ : Type} [UsageSource σ] (source : σ) (axes : Axes) (width : Float32)
    (time now : Int64) (settings : ForecastSettings) (ahead : Int64) :
    let d := UsageSource.bucketLength source
    let anchor := (ofSource source axes width time now settings).anchor ahead
    (ofSource source axes width time now settings).increment ahead =
      settings.mean (ratePerBucket source (satSub time settings.trendWindow) time now d)
        (ratePerBucket source (satSub anchor settings.seasonalWindow) anchor now d) := rfl

/-! ## Where the windows end -/

/-- A seasonal window ends one season before the projected time, so less than a season after the
origin less one season. -/
theorem toInt_anchor {f : Forecast} (hs : 0 < f.settings.season)
    (hseason : -9223372036854775808 ≤ f.time.toInt - f.settings.season.toInt) (ahead : Int64) :
    (f.anchor ahead).toInt =
      f.time.toInt - f.settings.season.toInt + ahead.toInt % f.settings.season.toInt := by
  have hpos : 0 < f.settings.season.toInt := Int64.lt_iff_toInt_lt.1 hs
  have htime := f.time.toInt_lt
  have hlen := f.settings.season.toInt_lt
  have hlow := Int.emod_nonneg ahead.toInt hpos.ne'
  have hhigh := Int.emod_lt_of_pos ahead.toInt hpos
  rw [anchor, toInt_satAdd, toInt_satSub, Int64.toInt_ofInt_of_le (by omega) (by omega)]
  omega

theorem anchor_lt_time {f : Forecast} (hs : 0 < f.settings.season)
    (hseason : -9223372036854775808 ≤ f.time.toInt - f.settings.season.toInt) (ahead : Int64) :
    f.anchor ahead < f.time := by
  have hpos : 0 < f.settings.season.toInt := Int64.lt_iff_toInt_lt.1 hs
  have hhigh := Int.emod_lt_of_pos ahead.toInt hpos
  rw [Int64.lt_iff_toInt_lt, toInt_anchor hs hseason]
  omega

/-- No window ends after the origin, as long as the season reaches back to a representable
instant. -/
theorem Asks.finish_le_time {f : Forecast} {start finish : Int64} (ha : f.Asks start finish)
    (hs : 0 < f.settings.season)
    (hseason : -9223372036854775808 ≤ f.time.toInt - f.settings.season.toInt) :
    finish ≤ f.time := by
  rcases ha with ⟨-, rfl⟩ | ⟨ahead, -, rfl⟩
  · exact Int64.le_refl _
  · exact Int64.le_of_lt (anchor_lt_time hs hseason ahead)

/-! ## What a projection depends on -/

/-- A run asks for the seasonal rate at the ends of seasonal windows only. -/
theorem run_congr {f : Forecast} {seasonal : Int64 → UInt64}
    (h : ∀ ahead, seasonal (f.anchor ahead) = f.seasonal (f.anchor ahead)) (remaining : Nat)
    (x : Float32) (ahead : Int64) (p : Projection) :
    { f with seasonal }.run remaining x ahead p = f.run remaining x ahead p := by
  have hadvance (ahead : Int64) (p : Projection) :
      { f with seasonal }.advance ahead p = f.advance ahead p := by
    have hincrement : { f with seasonal }.increment ahead = f.increment ahead :=
      congrArg (f.settings.mean f.trend) (h ahead)
    rw [advance, hincrement]
    rfl
  induction remaining generalizing x ahead p with
  | zero => rfl
  | succ remaining ih => simp only [run, hadvance, ih]

end Forecast

namespace Projection

variable {σ : Type} [UsageSource σ]

/-- What becomes of a projection is decided by the bucket length and the run of the forecast. -/
theorem ofSource_congr_run {source other : σ} {axes axes' : Axes} {viewport : Viewport}
    {origin origin' : Origin} {now now' : Int64} {settings : ForecastSettings}
    (hlen : UsageSource.bucketLength source = UsageSource.bucketLength other)
    (hrun : settings.Valid →
      (Forecast.ofSource source axes viewport.width origin.time now settings).run
          settings.stepLimit origin.point.x 0 (start origin) =
        (Forecast.ofSource other axes' viewport.width origin'.time now' settings).run
          settings.stepLimit origin'.point.x 0 (start origin')) :
    ofSource source axes viewport origin now settings =
      ofSource other axes' viewport origin' now' settings := by
  unfold ofSource
  rw [hlen]
  cases hs : settings.validate with
  | error e => rfl
  | ok =>
    dsimp only
    rw [hrun ((ForecastSettings.validate_eq_ok_iff settings).1 hs)]

/-- Two sources with the same usage in all windows that are asked for have the same projection. -/
theorem ofSource_congr {source other : σ} {axes : Axes} {viewport : Viewport} {origin : Origin}
    {now : Int64} {settings : ForecastSettings}
    (hlen : UsageSource.bucketLength source = UsageSource.bucketLength other)
    (husage : settings.Valid → ∀ start finish,
      (Forecast.ofSource other axes viewport.width origin.time now settings).Asks start finish →
      UsageSource.usage source start finish now = UsageSource.usage other start finish now) :
    ofSource source axes viewport origin now settings =
      ofSource other axes viewport origin now settings := by
  refine ofSource_congr_run hlen fun hvalid => ?_
  let f := Forecast.ofSource other axes viewport.width origin.time now settings
  have hrate (start finish : Int64) (ha : f.Asks start finish) :
      ratePerBucket source start finish now (UsageSource.bucketLength other) =
        ratePerBucket other start finish now (UsageSource.bucketLength other) := by
    rw [ratePerBucket, ratePerBucket, husage hvalid start finish ha]
  -- The seasonal rates of the two forecasts may differ, but not where a run asks for them.
  have hforecast : Forecast.ofSource source axes viewport.width origin.time now settings =
      { f with
        seasonal := fun instant => ratePerBucket source (satSub instant settings.seasonalWindow)
          instant now (UsageSource.bucketLength other) } := by
    have htrend := hrate (satSub origin.time settings.trendWindow) origin.time (.inl ⟨rfl, rfl⟩)
    simp only [f, Forecast.ofSource, hlen, htrend]
  rw [hforecast]
  exact Forecast.run_congr (fun ahead => hrate _ _ (.inr ⟨ahead, rfl, rfl⟩)) _ _ _ _

end Projection

end TrafficChart

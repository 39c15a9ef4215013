import TrafficChart.Chart
import TrafficChart.History.Window
import TrafficChart.Proofs.Curves.Columns

/-!
# Fitting the data scale

The second pass of a fit draws on another data scale, which changes heights but no total, and which
does not make the estimate overflow. So the scale is the one that belongs to the curves it shows,
and fitting again changes nothing. The top of the scale covers what it was fitted to, unless that is
more than a tenth of the greatest value: eleven times as much is clamped before it is divided by
ten.
-/

namespace TrafficChart

theorem toInt_max (a b : Int64) : (max a b).toInt = max a.toInt b.toInt := by
  have hmax : max a b = if a ≤ b then b else a := rfl
  rw [hmax]
  split
  · rename_i hab
    rw [max_eq_right (Int64.le_iff_toInt_le.1 hab)]
  · rename_i hab
    rw [max_eq_left (Int64.le_iff_toInt_le.1 (Int64.le_of_lt (Int64.not_le.1 hab)))]

theorem eq_ok_of_toOption_eq_some {ε α : Type} {x : Except ε α} {a : α}
    (h : x.toOption = some a) : x = .ok a := by
  cases x with
  | error e => cases h
  | ok b => exact congrArg _ (Option.some.inj h)

namespace Chart

variable {σ : Type}

/-! ## The top of the scale -/

/-- What the data scale has to show. -/
def demand (c : Chart σ) : Int64 := max (axisValue c.series.visibleTotal) c.leastTop

theorem toInt_demand (c : Chart σ) :
    c.demand.toInt = max (axisValue c.series.visibleTotal).toInt c.leastTop.toInt := toInt_max _ _

theorem demand_le_iff (c : Chart σ) {top : Int64} :
    c.demand ≤ top ↔ axisValue c.series.visibleTotal ≤ top ∧ c.leastTop ≤ top := by
  simp only [Int64.le_iff_toInt_le, toInt_demand]
  exact max_le_iff

theorem demand_nonneg (c : Chart σ) : 0 ≤ c.demand.toInt := by
  have hvisible := toInt_axisValue c.series.visibleTotal
  rw [toInt_demand]
  omega

/-- A tenth is added before the clamp is taken off again. -/
theorem toInt_fittingTop (c : Chart σ) :
    c.fittingTop.toInt = min (c.demand.toInt * 11) 9223372036854775807 / 10 := by
  have hdemand := c.demand_nonneg
  have hmul : (satMul c.demand 11).toInt = min (c.demand.toInt * 11) 9223372036854775807 := by
    have heleven : (11 : Int64).toInt = 11 := rfl
    rw [satMul, toInt_clampInt64, heleven]
    omega
  have hmin : satMul c.demand 11 ≠ Int64.minValue := by
    intro h
    have hneg : Int64.minValue.toInt < 0 := by decide
    rw [← h, hmul] at hneg
    omega
  have hten : (10 : Int64).toInt = 10 := rfl
  have htop : c.fittingTop = satMul c.demand 11 / 10 := rfl
  rw [htop, Int64.toInt_div_of_ne_left _ _ hmin, hmul, hten, Int.tdiv_eq_ediv_of_nonneg (by omega)]

/-- Nothing to show still leaves a scale of length one. -/
theorem toInt_high_rescale (c : Chart σ) :
    c.rescale.data.high.toInt =
      max 1 (min (c.demand.toInt * 11) 9223372036854775807 / 10) := by
  have hdemand := c.demand_nonneg
  have htop := c.toInt_fittingTop
  by_cases hle : c.fittingTop ≤ 0
  · have hone : c.rescale.data.high = 1 := if_pos hle
    have hzero : c.fittingTop.toInt ≤ 0 := Int64.le_iff_toInt_le.1 hle
    rw [hone, ← htop, max_eq_left (by omega)]
    rfl
  · have hhigh : c.rescale.data.high = c.fittingTop := if_neg hle
    have hpos : 0 < c.fittingTop.toInt := Int64.lt_iff_toInt_lt.1 (Int64.not_le.1 hle)
    rw [hhigh, ← htop, max_eq_right (by omega)]

/-- The scale covers what it has to show, unless that is more than a tenth of the greatest
value. -/
theorem demand_le_high_rescale_iff (c : Chart σ) :
    c.demand ≤ c.rescale.data.high ↔ c.demand ≤ Int64.maxValue / 10 := by
  have hdemand := c.demand_nonneg
  have htenth : (Int64.maxValue / 10).toInt = 922337203685477580 := by decide
  simp only [Int64.le_iff_toInt_le, toInt_high_rescale, htenth]
  omega

/-! ## One pass and two -/

variable [UsageSource σ]

/-- What a drawing of the chart relies on. -/
def validate (c : Chart σ) : Except Refusal Unit :=
  Curves.validate c.series.source c.viewport c.series.settings

/-- No mean of the estimate overflows. -/
def Fits (c : Chart σ) (now : Int64) : Prop :=
  Curves.Fits c.series.source c.series.view c.axes c.viewport now c.series.settings

/-- The chart with the curves that belong to its scales. -/
def plotted (c : Chart σ) (now : Int64) : Chart σ :=
  let curves :=
    Curves.plot c.series.source c.series.view c.axes c.viewport now c.series.settings
  { c with series := { c.series with curves } }

/-- The chart without curves. -/
def undrawn (c : Chart σ) : Chart σ := { c with series := { c.series with curves := Curves.blank } }

theorem draw_of_fits {c : Chart σ} {now : Int64} (h : c.validate = .ok ()) (hfits : c.Fits now) :
    c.draw now = (c.plotted now, .ok ()) := by
  have hcurves : c.series.curvesOn c.axes c.viewport now = .ok (c.plotted now).series.curves :=
    Curves.draw_of_fits h hfits
  rw [draw, Series.draw_of_ok c.series hcurves]
  rfl

theorem draw_of_not_fits {c : Chart σ} {now : Int64} (h : c.validate = .ok ())
    (hfits : ¬ c.Fits now) : c.draw now = (c.undrawn, .error (.overflow .addition)) := by
  have hcurves : c.series.curvesOn c.axes c.viewport now = .error (.overflow .addition) :=
    Curves.draw_of_not_fits h hfits
  rw [draw, Series.draw_of_error c.series hcurves]
  rfl

theorem draw_of_refused {c : Chart σ} {e : Refusal} (h : c.validate = .error e) (now : Int64) :
    c.draw now = (c.undrawn, .error (.refused e)) := by
  have hcurves : c.series.curvesOn c.axes c.viewport now = .error (.refused e) :=
    Curves.draw_of_refused h c.series.view c.axes now
  rw [draw, Series.draw_of_error c.series hcurves]
  rfl

/-- Whether the estimate overflows does not depend on the data scale. -/
theorem fits_rescale_plotted (c : Chart σ) (now : Int64) :
    (c.plotted now).rescale.Fits now ↔ c.Fits now :=
  Curves.fits_ignores_vert c.series.source c.series.view c.time.rightward
    (c.plotted now).rescale.data.upward c.data.upward c.viewport now c.series.settings

theorem fit_of_fits {c : Chart σ} {now : Int64} (h : c.validate = .ok ()) (hfits : c.Fits now) :
    c.fit now =
      ((c.plotted now).rescale.plotted now, .ok (c.plotted now).rescale.data.high) := by
  have hsecond : (c.plotted now).rescale.validate = .ok () := h
  simp only [fit, draw_of_fits h hfits,
    draw_of_fits hsecond ((fits_rescale_plotted c now).2 hfits)]
  rfl

/-- A fit that succeeds has passed both checks, as both drawings do or neither. -/
theorem fits_of_fit {c : Chart σ} {now top : Int64} (h : (c.fit now).2 = .ok top) :
    c.validate = .ok () ∧ c.Fits now := by
  cases hcheck : c.validate with
  | error e =>
    rw [fit, draw_of_refused hcheck] at h
    cases h
  | ok =>
    refine ⟨rfl, ?_⟩
    by_contra hfits
    rw [fit, draw_of_not_fits hcheck hfits] at h
    cases h

theorem axes_plotted (c : Chart σ) (now : Int64) : (c.plotted now).axes = c.axes := rfl

theorem fits_plotted (c : Chart σ) (now : Int64) : (c.plotted now).Fits now ↔ c.Fits now := Iff.rfl

theorem plotted_plotted (c : Chart σ) (now : Int64) :
    (c.plotted now).plotted now = c.plotted now := rfl

/-- The total on display does not depend on the data scale. -/
theorem visibleTotal_plotted_rescale (c : Chart σ) (now : Int64) :
    (c.rescale.plotted now).series.visibleTotal = (c.plotted now).series.visibleTotal :=
  (Curves.sameColumns_plot c.series.source c.series.view c.time.rightward c.rescale.data.upward
    c.data.upward c.viewport now c.series.settings).visibleTotal c.series.view.showsEstimate

/-! ## A chart of little traffic -/

def littleHistory : History :=
  ⟨1000, #[⟨0, 1000, 300, 0⟩, ⟨1000, 1000, 600, 0⟩, ⟨2000, 1000, 200, 200⟩]⟩

/-- A chart of three seconds with a given least top. The curve begins at the end of the first one,
so that a thousand bytes are on display. -/
def littleTraffic (leastTop : Int64) : Chart History :=
  { ((create ⟨300, 100⟩).bind littleHistory).showTimes 0 3000 with leastTop }

/-! ## What a fit leaves -/

/-- What fitting has made of a chart at an instant. -/
structure Fitted (c : Chart σ) (now : Int64) (fitted : Chart σ) : Prop where
  /-- Only the data scale and the curves are new. -/
  frame : fitted =
    { c with data := fitted.data, series := { c.series with curves := fitted.series.curves } }
  low : fitted.data.low = 0
  curves : Curves.draw c.series.source c.series.view fitted.axes c.viewport now
    c.series.settings = .ok fitted.series.curves
  /-- The curves show the total that they showed before the data scale was fitted. -/
  total : fitted.series.visibleTotal = (c.draw now).1.series.visibleTotal
  /-- The data scale ends a tenth above the total that the curves show, or above the least top. -/
  data : fitted.data = c.data.withBounds 0
    (satMul (max (axisValue fitted.series.visibleTotal) c.leastTop) 11 / 10)

theorem fitted_of_fits {c : Chart σ} {now : Int64} (h : c.validate = .ok ()) (hfits : c.Fits now) :
    c.Fitted now ((c.plotted now).rescale.plotted now) where
  frame := rfl
  low := rfl
  curves := by
    rw [axes_plotted]
    exact Curves.draw_of_fits h ((fits_rescale_plotted c now).2 hfits)
  total := by
    rw [draw_of_fits h hfits]
    exact visibleTotal_plotted_rescale (c.plotted now) now
  data := by
    rw [visibleTotal_plotted_rescale (c.plotted now) now]
    rfl

/-- On the scale that belongs to its total a chart stays as it is. -/
theorem rescale_plotted_rescale (c : Chart σ) (now : Int64) :
    ((c.plotted now).rescale.plotted now).rescale = (c.plotted now).rescale.plotted now := by
  have htop : ((c.plotted now).rescale.plotted now).fittingTop = (c.plotted now).fittingTop := by
    have htotal := visibleTotal_plotted_rescale (c.plotted now) now
    rw [plotted_plotted] at htotal
    rw [fittingTop, htotal]
    rfl
  -- The same ends once more leave the scale as it is.
  rw [rescale, htop]
  rfl

/-- A fit that succeeds leaves the chart fitted, with the top that it returns. Fitting again
changes nothing. -/
theorem fit_fit (c : Chart σ) {now top : Int64} (h : (c.fit now).2 = .ok top) :
    let fitted := (c.fit now).1
    c.Fitted now fitted ∧ fitted.data.high = top ∧ fitted.fit now = (fitted, .ok top) := by
  obtain ⟨hcheck, hfits⟩ := fits_of_fit h
  have hagain : ((c.plotted now).rescale.plotted now).validate = .ok () := hcheck
  have hfits' := (fits_plotted _ now).2 ((fits_rescale_plotted c now).2 hfits)
  rw [fit_of_fits hcheck hfits] at h ⊢
  obtain rfl : (c.plotted now).rescale.data.high = top := Except.ok.inj h
  refine ⟨fitted_of_fits hcheck hfits, rfl, ?_⟩
  rw [fit_of_fits hagain hfits', plotted_plotted, rescale_plotted_rescale, plotted_plotted]
  rfl

/-- The total on display exceeds the least top, and the curve has a point for each second. -/
theorem fit_fit_littleTraffic :
    let fitted := ((littleTraffic 100).fit 3000).1
    ((littleTraffic 100).fit 3000).2 = .ok 1100 ∧ (littleTraffic 100).Fitted 3000 fitted ∧
      fitted.data.high = 1100 ∧ fitted.fit 3000 = (fitted, .ok 1100) ∧
      fitted.series.visibleTotal = 1000 ∧ fitted.series.curves.stroke.points.length = 3 := by
  have hfit : ((littleTraffic 100).fit 3000).2 = .ok 1100 :=
    eq_ok_of_toOption_eq_some (by decide +kernel)
  obtain ⟨hfitted, htop, hagain⟩ := fit_fit (littleTraffic 100) hfit
  exact ⟨hfit, hfitted, htop, hagain, by decide +kernel, by decide +kernel⟩

/-- The top of a fitted scale covers the total on display and the least top exactly if both are at
most a tenth of the greatest value. -/
theorem fit_covers_iff (c : Chart σ) {now top : Int64} (h : (c.fit now).2 = .ok top) :
    let visible := axisValue (c.fit now).1.series.visibleTotal
    visible ≤ top ∧ c.leastTop ≤ top ↔
      visible ≤ Int64.maxValue / 10 ∧ c.leastTop ≤ Int64.maxValue / 10 := by
  obtain ⟨hcheck, hfits⟩ := fits_of_fit h
  rw [fit_of_fits hcheck hfits] at h ⊢
  obtain rfl : (c.plotted now).rescale.data.high = top := Except.ok.inj h
  have hcovers := (c.plotted now).demand_le_high_rescale_iff
  rw [demand_le_iff, demand_le_iff] at hcovers
  dsimp only
  rw [visibleTotal_plotted_rescale (c.plotted now) now]
  exact hcovers

theorem fit_covers_littleTraffic :
    let visible := axisValue ((littleTraffic 100).fit 3000).1.series.visibleTotal
    ((littleTraffic 100).fit 3000).2 = .ok 1100 ∧ (littleTraffic 100).leastTop < visible ∧
      visible ≤ 1100 ∧ (littleTraffic 100).leastTop ≤ 1100 := by
  have hfit : ((littleTraffic 100).fit 3000).2 = .ok 1100 :=
    eq_ok_of_toOption_eq_some (by decide +kernel)
  exact ⟨hfit, by decide +kernel,
    (fit_covers_iff (littleTraffic 100) hfit).2 ⟨by decide +kernel, by decide⟩⟩

/-- A least top of 10^18 leaves room for a tenth more, but the top of the fitted scale lies below
it. -/
theorem fit_below_leastTop :
    ((littleTraffic 1000000000000000000).fit 3000).2 = .ok 922337203685477580 ∧
      ¬ (littleTraffic 1000000000000000000).leastTop ≤ 922337203685477580 :=
  ⟨eq_ok_of_toOption_eq_some (by decide +kernel), by decide⟩

end Chart

end TrafficChart

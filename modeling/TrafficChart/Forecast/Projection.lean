import TrafficChart.Forecast.Settings
import TrafficChart.Geometry.Outline
import TrafficChart.Geometry.Scale
import TrafficChart.Geometry.Viewport
import TrafficChart.UsageSource

/-!
# Projections

A projection continues a curve bucket by bucket until it leaves the right edge. Each step adds
the mean of two rates. The trend is fixed at the origin. The seasonal rate is that of a window
that ends at the same time of the season as the projected bucket, one season back. A mean that
overflows ends the projection without a result.
-/

namespace TrafficChart

/-- Where and when a projection begins, and the total it continues. -/
structure Origin where
  point : Point
  time : Int64
  total : UInt64

structure Projection where
  outline : Outline
  /-- The total after the last step. -/
  total : UInt64
  steps : Nat
  /-- Whether the limit of steps ended the projection before the right edge. -/
  cutShort : Bool

/-- What stays fixed during a projection. -/
structure Forecast where
  axes : Axes
  width : Float32
  /-- The instant from which the projection counts. -/
  time : Int64
  bucketLength : Int64
  settings : ForecastSettings
  trend : UInt64
  /-- The seasonal rate of the window that ends at an instant. -/
  seasonal : Int64 → UInt64

namespace Forecast

/-- The end of the seasonal window for the bucket that ends `ahead` of the origin: one season
back, at the same time of the season. -/
def anchor (f : Forecast) (ahead : Int64) : Int64 :=
  satAdd (satSub f.time f.settings.season)
    (Int64.ofInt (ahead.toInt % f.settings.season.toInt))

/-- What the bucket that ends `ahead` of the origin adds. -/
def increment (f : Forecast) (ahead : Int64) : Except Overflow UInt64 :=
  f.settings.mean f.trend (f.seasonal (f.anchor ahead))

/-- Where the bucket that ends `ahead` of the origin leaves the total. -/
def pointAt (f : Forecast) (ahead : Int64) (total : UInt64) : Point :=
  ⟨f.axes.horiz (satAdd f.time ahead), f.axes.vert (axisValue total)⟩

/-- Draws the bucket that ends `ahead` of the origin and adds so many bytes. -/
def grow (f : Forecast) (ahead : Int64) (bytes : UInt64) (p : Projection) : Projection :=
  let total := satSum p.total bytes
  { p with
    outline := p.outline.lineTo (f.pointAt ahead total)
    total
    steps := p.steps + 1 }

/-- Adds the bucket that ends `ahead` of the origin. -/
def advance (f : Forecast) (ahead : Int64) (p : Projection) : Except Overflow Projection := do
  return f.grow ahead (← f.increment ahead) p

/-- Steps until the right edge is reached, at most `remaining` ones. The curve stands at `x`,
`ahead` of the origin. -/
def run (f : Forecast) : Nat → Float32 → Int64 → Projection → Except Overflow Projection
  | 0, x, _, p => .ok (if x < f.width then { p with cutShort := true } else p)
  | remaining + 1, x, ahead, p =>
    if x < f.width then do
      let ahead := satAdd ahead f.bucketLength
      run f remaining (f.axes.horiz (satAdd f.time ahead)) ahead (← f.advance ahead p)
    else .ok p

theorem run_of_not_lt (f : Forecast) (remaining : Nat) {x : Float32} (ahead : Int64)
    (p : Projection) (h : ¬ x < f.width) : f.run remaining x ahead p = .ok p := by
  cases remaining with
  | zero => rw [run, if_neg h]
  | succ remaining => exact if_neg h

theorem run_succ_of_lt (f : Forecast) (remaining : Nat) {x : Float32} (ahead : Int64)
    (p : Projection) (h : x < f.width) :
    f.run (remaining + 1) x ahead p =
      f.advance (satAdd ahead f.bucketLength) p >>=
        f.run remaining (f.axes.horiz (satAdd f.time (satAdd ahead f.bucketLength)))
          (satAdd ahead f.bucketLength) :=
  if_pos h

end Forecast

section

variable {σ : Type} [UsageSource σ]

/-- The usage from `start` to before `finish`, as seen at `now`, scaled to one bucket. -/
def ratePerBucket (source : σ) (start finish now bucketLength : Int64) : UInt64 :=
  let window := UsageSource.usage source start finish now
  share window.total bucketLength.toInt window.duration.toInt

/-- The forecast of a source from an instant, as seen at `now`. -/
def Forecast.ofSource (source : σ) (axes : Axes) (width : Float32) (time now : Int64)
    (settings : ForecastSettings) : Forecast :=
  let bucketLength := UsageSource.bucketLength source
  let rateBefore (window instant : Int64) : UInt64 :=
    ratePerBucket source (satSub instant window) instant now bucketLength
  { axes, width, time, bucketLength, settings
    trend := rateBefore settings.trendWindow time
    seasonal := rateBefore settings.seasonalWindow }

/-- A projection without steps. -/
def Projection.start (origin : Origin) : Projection :=
  ⟨(∅ : Outline).moveTo origin.point, origin.total, 0, false⟩

/-- The projection of a source from an origin, as seen at `now`. -/
def Projection.ofSource (source : σ) (axes : Axes) (viewport : Viewport) (origin : Origin)
    (now : Int64) (settings : ForecastSettings) : Except (Stop Refusal) Projection := do
  let bucketLength := UsageSource.bucketLength source
  if bucketLength ≤ 0 then throw (.refused (.nominalLength bucketLength))
  settings.validate.mapError .refused
  viewport.validate.mapError .refused
  let forecast := Forecast.ofSource source axes viewport.width origin.time now settings
  (forecast.run settings.stepLimit origin.point.x 0 (Projection.start origin)).mapError .overflow

end

end TrafficChart

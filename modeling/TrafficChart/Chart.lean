import TrafficChart.Series

/-!
# Charts

A chart joins a series with a time scale, a data scale and a viewport. Fitting the data scale
takes two passes: one to learn the greatest total on display, one on the fitted scale.

## Main definitions

* `Chart`, `Chart.create`: the data and its beginning.
* `Chart.resize`, `Chart.showTimes`: changes of the scales.
* `Chart.draw`, `Chart.fit`: one pass, and both.
-/

namespace TrafficChart

/-- The least top of the data scale, so that little traffic does not fill the chart. -/
def standardLeastTop : Int64 := 50 * 1024 * 1024

structure Chart (σ : Type) where
  time : Scale
  data : Scale
  viewport : Viewport
  series : Series σ
  leastTop : Int64

namespace Chart

variable {σ : Type}

def create (viewport : Viewport) : Chart σ where
  time := Scale.spanning 0 1 viewport.width
  data := Scale.spanning 0 standardLeastTop viewport.height
  viewport
  series := Series.standard
  leastTop := standardLeastTop

def bind (c : Chart σ) (source : σ) : Chart σ := { c with series := c.series.bind source }

/-- Resizes the chart and both scales. -/
def resize (c : Chart σ) (viewport : Viewport) : Chart σ :=
  { c with
    viewport
    time := c.time.withSize viewport.width
    data := c.data.withSize viewport.height }

/-- Shows the given part of time. -/
def showTimes (c : Chart σ) (start finish : Int64) : Chart σ :=
  { c with time := c.time.withBounds start finish }

/-- The axes of the current scales. -/
def axes (c : Chart σ) : Axes := ⟨c.time.rightward, c.data.upward⟩

/-- The top of a data scale that shows the series: a tenth more than the greatest total on
display, or than the least top if that is greater. -/
def fittingTop (c : Chart σ) : Int64 :=
  satMul (max (axisValue c.series.visibleTotal) c.leastTop) 11 / 10

/-- Fits the data scale to the greatest total on display. -/
def rescale (c : Chart σ) : Chart σ := { c with data := c.data.withBounds 0 c.fittingTop }

variable [UsageSource σ]

/-- Draws the curves on the current scales. -/
def draw (c : Chart σ) (now : Int64) : Chart σ × Except (Stop Refusal) Unit :=
  let (series, outcome) := c.series.draw c.axes c.viewport now
  ({ c with series }, outcome)

/-- Draws, fits the data scale and draws again. The outcome is the new top. -/
def fit (c : Chart σ) (now : Int64) : Chart σ × Except (Stop Refusal) Int64 :=
  match c.draw now with
  | (first, .error e) => (first, .error e)
  | (first, .ok _) =>
    let (second, outcome) := first.rescale.draw now
    (second, outcome.map fun _ => second.data.high)

end Chart

end TrafficChart

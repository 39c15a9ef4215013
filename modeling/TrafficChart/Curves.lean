import TrafficChart.Forecast.Projection
import TrafficChart.Trace

/-!
# Curves

The three outlines of a chart: recorded usage as a stroke and as a filled shape, and the
estimate that continues it.
-/

namespace TrafficChart

structure View where
  /-- The part of time that is painted as the primary range. -/
  primaryStart : Int64
  primaryFinish : Int64
  /-- The instant up to which recorded usage is held flat. -/
  heldUntil : Option Int64
  showsEstimate : Bool
  deriving DecidableEq

def View.initial : View := ⟨0, 0, none, false⟩

structure Curves where
  stroke : Outline
  fill : Outline
  estimate : Outline
  /-- The total of the recorded buckets. -/
  recordedTotal : UInt64
  /-- The total at the end of the estimate. -/
  estimatedTotal : UInt64

namespace Curves

def blank : Curves := ⟨∅, ∅, ∅, 0, 0⟩

def isBlank (c : Curves) : Bool := c.stroke.isEmpty && c.fill.isEmpty && c.estimate.isEmpty

/-- The greatest total on display. -/
def visibleTotal (c : Curves) (showsEstimate : Bool) : UInt64 :=
  if showsEstimate then c.estimatedTotal else c.recordedTotal

def ofParts (trace : Trace) (projection : Projection) : Curves where
  stroke := trace.stroke
  fill := trace.fill
  estimate := projection.outline
  recordedTotal := trace.total
  estimatedTotal := projection.total

end Curves

/-- A forecast begins where the trace rests, at the end of the last bucket. -/
def Trace.origin (t : Trace) : Origin := ⟨t.rest, t.reached, t.total⟩

section

variable {σ : Type} [UsageSource σ]

/-- A source with at least two buckets. -/
def drawable? (source : Option σ) : Option σ :=
  source.filter fun s => decide (2 ≤ UsageSource.size s)

/-- The curves of a source in a view. Without two buckets there is nothing to draw. -/
def Curves.draw (source : Option σ) (view : View) (axes : Axes) (viewport : Viewport)
    (now : Int64) (settings : ForecastSettings) : Except (Stop Refusal) Curves := do
  viewport.validate.mapError .refused
  match drawable? source with
  | none => return Curves.blank
  | some s =>
    let trace := Trace.ofSource s axes viewport view.heldUntil
    let projection ← Projection.ofSource s axes viewport trace.origin now settings
    return Curves.ofParts trace projection

end

end TrafficChart

import TrafficChart.Geometry.Outline
import TrafficChart.Geometry.Scale
import TrafficChart.Geometry.Viewport
import TrafficChart.UsageSource

/-!
# Traces of recorded usage

A trace draws the running total of a source from left to right. Each bucket is a point at its
end, at the height of the total before it. Drawing begins with the first bucket after the oldest
one that ends right of the left edge, at the point of the bucket before it, and only buckets
drawn are counted. The bucket that first ends beyond the right edge is the last one drawn and
counted, but the trace rests at the point before it. The filled shape is drawn along with the curve
and closed at the end.
-/

namespace TrafficChart

structure Trace where
  /-- The curve. -/
  stroke : Outline
  /-- The filled shape: the curve, and in the end the way back along the lower edge. -/
  fill : Outline
  /-- The bytes counted. -/
  total : UInt64
  /-- Where the curve begins. -/
  beginX : Float32
  /-- Where the trace rests. -/
  rest : Point
  /-- The end of the last bucket looked at, the least instant if there was none. -/
  reached : Int64
  /-- Whether the pen is down. -/
  drawing : Bool

namespace Trace

def blank : Trace where
  stroke := ∅
  fill := ∅
  total := 0
  beginX := 0
  rest := Point.origin
  reached := Int64.minValue
  drawing := false

/-- Sets the pen down where the trace rests. -/
def start (t : Trace) : Trace :=
  { t with
    stroke := t.stroke.moveTo t.rest
    fill := t.fill.moveTo t.rest
    beginX := t.rest.x
    drawing := true }

/-- Draws to a point if the pen is down. -/
def draw (t : Trace) (p : Point) : Trace :=
  if t.drawing then { t with stroke := t.stroke.lineTo p, fill := t.fill.lineTo p } else t

/-- Counts a bucket if the pen is down. -/
def count (t : Trace) (b : Bucket) : Trace :=
  if t.drawing then { t with total := satSum t.total b.total } else t

/-- The point of a bucket: its end, at the height of the total before it. -/
def pointOf (axes : Axes) (t : Trace) (b : Bucket) : Point :=
  ⟨axes.horiz b.finish, axes.vert (axisValue t.total)⟩

/-- Looks at one bucket, which may begin the curve unless it is the oldest. -/
def visit (axes : Axes) (oldest : Bool) (t : Trace) (b : Bucket) : Trace :=
  let p := pointOf axes t b
  let t := { t with reached := b.finish }
  let t := if !oldest && !t.drawing && decide (0 < p.x) then t.start else t
  (t.draw p).count b

/-- Looks at buckets in order, up to the first one that ends beyond the right edge. -/
def run (axes : Axes) (width : Float32) (oldest : Bool) (t : Trace) : List Bucket → Trace
  | [] => t
  | b :: newer =>
    let p := pointOf axes t b
    let t := visit axes oldest t b
    if width < p.x then t else run axes width false { t with rest := p } newer

/-- Continues flat to a later instant. -/
def hold (axes : Axes) (heldUntil : Option Int64) (t : Trace) : Trace :=
  match heldUntil with
  | none => t
  | some instant =>
    if t.reached < instant then
      let p : Point := ⟨axes.horiz instant, t.rest.y⟩
      { t with rest := p }.draw p
    else t

/-- Closes the filled shape: down to the lower edge and back to below the beginning. -/
def close (height : Float32) (t : Trace) : Trace :=
  if t.drawing then
    { t with fill := (t.fill.lineTo ⟨t.rest.x, height⟩).lineTo ⟨t.beginX, height⟩ }
  else t

/-- The trace of a source. Fewer than two buckets draw nothing. -/
def ofSource {σ : Type} [UsageSource σ] (source : σ) (axes : Axes) (viewport : Viewport)
    (heldUntil : Option Int64) : Trace :=
  if UsageSource.size source < 2 then blank
  else
    let recorded := run axes viewport.width true blank (UsageSource.buckets source)
    (recorded.hold axes heldUntil).close viewport.height

end Trace

end TrafficChart

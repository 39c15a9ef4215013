import TrafficChart.Curves

/-!
# Series

A series holds a source, the view, the forecast settings and the curves drawn last. Binding a
source drops the curves, and so does beginning to draw. So a drawing that fails leaves blank curves,
whether it is refused or overflows.
-/

namespace TrafficChart

structure Series (σ : Type) where
  source : Option σ
  view : View
  settings : ForecastSettings
  curves : Curves

namespace Series

variable {σ : Type}

/-- A series without a source. -/
def unbound (settings : ForecastSettings) : Series σ :=
  ⟨none, View.initial, settings, Curves.blank⟩

def standard : Series σ := unbound ForecastSettings.standard

/-- A series with the given settings, if they are valid. -/
def withSettings (settings : ForecastSettings) : Except Refusal (Series σ) := do
  settings.validate
  return unbound settings

/-- Replaces the source and drops the curves. -/
def bind (s : Series σ) (source : σ) : Series σ :=
  { s with source := some source, curves := Curves.blank }

def isBound (s : Series σ) : Bool := s.source.isSome

/-- Paints the given part of time as the primary range. -/
def withPrimary (s : Series σ) (start finish : Int64) : Series σ :=
  { s with view := { s.view with primaryStart := start, primaryFinish := finish } }

/-- The edges of the primary range on the screen. -/
def primaryEdges (s : Series σ) (horiz : Axis) : Float32 × Float32 :=
  (horiz s.view.primaryStart, horiz s.view.primaryFinish)

/-- Holds recorded usage flat up to an instant. -/
def holdUntil (s : Series σ) (instant : Int64) : Series σ :=
  { s with view := { s.view with heldUntil := some instant } }

/-- Lets recorded usage end where it ends. -/
def release (s : Series σ) : Series σ := { s with view := { s.view with heldUntil := none } }

def showEstimate (s : Series σ) (shows : Bool) : Series σ :=
  { s with view := { s.view with showsEstimate := shows } }

/-- The greatest total on display. -/
def visibleTotal (s : Series σ) : UInt64 := s.curves.visibleTotal s.view.showsEstimate

variable [UsageSource σ]

/-- The curves of the series on the given axes. -/
def curvesOn (s : Series σ) (axes : Axes) (viewport : Viewport) (now : Int64) :
    Except (Stop Refusal) Curves :=
  Curves.draw s.source s.view axes viewport now s.settings

/-- Draws the curves anew. The outcome stands beside the series. -/
def draw (s : Series σ) (axes : Axes) (viewport : Viewport) (now : Int64) :
    Series σ × Except (Stop Refusal) Unit :=
  match s.curvesOn axes viewport now with
  | .ok curves => ({ s with curves }, .ok ())
  | .error e => ({ s with curves := Curves.blank }, .error e)

theorem draw_of_ok (s : Series σ) {axes : Axes} {viewport : Viewport} {now : Int64}
    {curves : Curves} (h : s.curvesOn axes viewport now = .ok curves) :
    s.draw axes viewport now = ({ s with curves }, .ok ()) := by
  simp [draw, h]

theorem draw_of_error (s : Series σ) {axes : Axes} {viewport : Viewport} {now : Int64}
    {e : Stop Refusal} (h : s.curvesOn axes viewport now = .error e) :
    s.draw axes viewport now = ({ s with curves := Curves.blank }, .error e) := by
  simp [draw, h]

end Series

end TrafficChart

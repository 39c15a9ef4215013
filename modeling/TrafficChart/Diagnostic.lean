import TrafficChart.Chart

/-!
# Diagnostics

What drawing reports beside its result. Each report is a function of the same arguments as the
computation that it is about.
-/

namespace TrafficChart

inductive Level where
  | debug
  | info
  | warn
  deriving DecidableEq

def Level.label : Level → String
  | .debug => "DEBUG"
  | .info => "INFO"
  | .warn => "WARN"

structure Diagnostic where
  level : Level
  text : String
  deriving DecidableEq

/-- The box around the filled shape, if there is one. -/
def Trace.diagnostics (t : Trace) : List Diagnostic :=
  match t.fill.bounds? with
  | none => []
  | some b =>
    let edges := ", ".intercalate ([b.left, b.top, b.right, b.bottom].map Decimal.render)
    [⟨.debug, s!"rendered fill bounds=[{edges}] total={t.total}"⟩]

/-- The warning that the limit of steps ended a projection. -/
def Projection.warnings (p : Projection) (width : Float32) : List Diagnostic :=
  if p.cutShort then
    let x := Decimal.render (p.outline.last?.getD Point.origin).x
    let edge := Decimal.render width
    [⟨.warn, s!"estimate stopped after {p.steps} steps at x={x} (width {edge})"⟩]
  else []

/-- The length and the total of a projection, after its warnings. -/
def Projection.diagnostics (p : Projection) (width : Float32) : List Diagnostic :=
  p.warnings width ++ [⟨.debug, s!"estimate steps={p.steps} max_estimate={p.total}"⟩]

section

variable {σ : Type} [UsageSource σ]

/-- What drawing curves reports. -/
def Curves.diagnostics (source : Option σ) (view : View) (axes : Axes) (viewport : Viewport)
    (now : Int64) (settings : ForecastSettings) : List Diagnostic :=
  match viewport.validate, drawable? source with
  | .ok _, some s =>
    let trace := Trace.ofSource s axes viewport view.heldUntil
    let projection := Projection.ofSource s axes viewport trace.origin now settings
    trace.diagnostics ++
      match projection with
      | .ok p => p.diagnostics viewport.width
      | .error _ => []
  | _, _ => []

/-- What drawing a series reports. -/
def Series.diagnostics (s : Series σ) (axes : Axes) (viewport : Viewport) (now : Int64) :
    List Diagnostic :=
  ⟨.debug, s!"generate() bound={s.isBound}"⟩ ::
    Curves.diagnostics s.source s.view axes viewport now s.settings

/-- What drawing a chart reports. -/
def Chart.drawDiagnostics (c : Chart σ) (now : Int64) : List Diagnostic :=
  c.series.diagnostics c.axes c.viewport now

/-- What fitting a chart reports: both passes, and the new top between them. -/
def Chart.fitDiagnostics (c : Chart σ) (now : Int64) : List Diagnostic :=
  c.drawDiagnostics now ++
    match c.draw now with
    | (_, .error _) => []
    | (first, .ok _) =>
      let visible := axisValue first.series.visibleTotal
      let top := first.data.high
      let fitted : Diagnostic :=
        ⟨.debug, s!"autoscale max_visible={visible} data_max={top} -> {first.fittingTop}"⟩
      fitted :: first.rescale.drawDiagnostics now

end

end TrafficChart

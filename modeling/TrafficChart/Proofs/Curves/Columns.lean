import Mathlib.Data.List.Forall2
import TrafficChart.Proofs.Curves.Plot

/-!
# What the vertical axis decides

The vertical axis gives the points of the curves their heights and decides nothing else. The same
chart on two vertical axes is refused alike, overflows alike, or its curves have the same steps at
the same abscissas and the same totals. That is why a data scale can be fitted to totals that were
found on another one.
-/

namespace TrafficChart

/-! ## Outlines -/

/-- Both steps set the pen down or both draw, at the same abscissa. -/
inductive PenStep.SameColumn : PenStep → PenStep → Prop
  | move (x y z : Float32) : SameColumn (.move ⟨x, y⟩) (.move ⟨x, z⟩)
  | line (x y z : Float32) : SameColumn (.line ⟨x, y⟩) (.line ⟨x, z⟩)

namespace Outline

/-- As many steps, and each of the same kind and at the same abscissa as its counterpart. -/
def SameColumns (o p : Outline) : Prop := List.Forall₂ PenStep.SameColumn o.toList p.toList

variable {o p : Outline} {a b : Point}

theorem sameColumns_empty : SameColumns ∅ ∅ := .nil

theorem SameColumns.moveTo (h : o.SameColumns p) (hx : a.x = b.x) :
    (o.moveTo a).SameColumns (p.moveTo b) := by
  obtain ⟨x, y⟩ := a
  obtain ⟨_, z⟩ := b
  obtain rfl := hx
  rw [SameColumns, toList_moveTo, toList_moveTo]
  exact List.rel_append h (.cons (.move x y z) .nil)

theorem SameColumns.lineTo (h : o.SameColumns p) (hx : a.x = b.x) :
    (o.lineTo a).SameColumns (p.lineTo b) := by
  obtain ⟨x, y⟩ := a
  obtain ⟨_, z⟩ := b
  obtain rfl := hx
  have hnil : o.toList = [] ↔ p.toList = [] := by
    rw [← List.length_eq_zero_iff, h.length_eq, List.length_eq_zero_iff]
  rw [SameColumns, toList_lineTo, toList_lineTo]
  refine List.rel_append h (.cons ?_ .nil)
  by_cases ho : o.toList = []
  · rw [if_pos ho, if_pos (hnil.1 ho)]
    exact .move x y z
  · rw [if_neg ho, if_neg (mt hnil.2 ho)]
    exact .line x y z

end Outline

/-! ## Traces -/

namespace Trace

/-- Two traces that differ in heights only. -/
structure SameColumns (t u : Trace) : Prop where
  stroke : t.stroke.SameColumns u.stroke
  fill : t.fill.SameColumns u.fill
  total : t.total = u.total
  beginX : t.beginX = u.beginX
  restX : t.rest.x = u.rest.x
  reached : t.reached = u.reached
  drawing : t.drawing = u.drawing

theorem sameColumns_blank : blank.SameColumns blank :=
  ⟨Outline.sameColumns_empty, Outline.sameColumns_empty, rfl, rfl, rfl, rfl, rfl⟩

namespace SameColumns

variable {t u t' u' : Trace}

/-- Two traces that choose alike. -/
theorem ite {c d : Prop} [Decidable c] [Decidable d] (hcd : c ↔ d) (hthen : t.SameColumns u)
    (helse : t'.SameColumns u') : (if c then t else t').SameColumns (if d then u else u') := by
  by_cases hc : c
  · rw [if_pos hc, if_pos (hcd.1 hc)]
    exact hthen
  · rw [if_neg hc, if_neg (mt hcd.2 hc)]
    exact helse

variable (h : t.SameColumns u)

include h

theorem drawing_iff : t.drawing = true ↔ u.drawing = true := by rw [h.drawing]

theorem start : t.start.SameColumns u.start :=
  { h with
    stroke := h.stroke.moveTo h.restX
    fill := h.fill.moveTo h.restX
    beginX := h.restX
    drawing := rfl }

theorem draw {a b : Point} (hx : a.x = b.x) : (t.draw a).SameColumns (u.draw b) :=
  ite h.drawing_iff { h with stroke := h.stroke.lineTo hx, fill := h.fill.lineTo hx } h

theorem count (bucket : Bucket) : (t.count bucket).SameColumns (u.count bucket) :=
  ite h.drawing_iff { h with total := congrArg (satSum · bucket.total) h.total } h

/-- Whether a bucket begins the curve depends on its abscissa alone. -/
theorem visit (horiz v w : Axis) (oldest : Bool) (bucket : Bucket) :
    (visit ⟨horiz, v⟩ oldest t bucket).SameColumns (visit ⟨horiz, w⟩ oldest u bucket) := by
  have hreached : { t with reached := bucket.finish }.SameColumns
      { u with reached := bucket.finish } := { h with reached := rfl }
  have hbegins : (!oldest && !t.drawing && decide (0 < horiz bucket.finish)) = true ↔
      (!oldest && !u.drawing && decide (0 < horiz bucket.finish)) = true := by rw [h.drawing]
  have hx : (pointOf ⟨horiz, v⟩ t bucket).x = (pointOf ⟨horiz, w⟩ u bucket).x := rfl
  exact ((ite hbegins hreached.start hreached).draw hx).count bucket

/-- So does whether it is the last one. -/
theorem run (horiz v w : Axis) (width : Float32) (oldest : Bool) (buckets : List Bucket) :
    (run ⟨horiz, v⟩ width oldest t buckets).SameColumns
      (run ⟨horiz, w⟩ width oldest u buckets) := by
  induction buckets generalizing oldest t u with
  | nil => exact h
  | cons bucket newer ih =>
    have hvisit := h.visit horiz v w oldest bucket
    have hpass : { Trace.visit ⟨horiz, v⟩ oldest t bucket with
          rest := pointOf ⟨horiz, v⟩ t bucket }.SameColumns
        { Trace.visit ⟨horiz, w⟩ oldest u bucket with
          rest := pointOf ⟨horiz, w⟩ u bucket } := { hvisit with restX := rfl }
    exact ite Iff.rfl hvisit (ih hpass false)

theorem hold (horiz v w : Axis) (heldUntil : Option Int64) :
    (t.hold ⟨horiz, v⟩ heldUntil).SameColumns (u.hold ⟨horiz, w⟩ heldUntil) := by
  cases heldUntil with
  | none => exact h
  | some instant =>
    have hrest : { t with rest := ⟨horiz instant, t.rest.y⟩ }.SameColumns
        { u with rest := ⟨horiz instant, u.rest.y⟩ } := { h with restX := rfl }
    have hlater : t.reached < instant ↔ u.reached < instant := by rw [h.reached]
    exact ite hlater (hrest.draw rfl) h

theorem close (height : Float32) : (t.close height).SameColumns (u.close height) :=
  ite h.drawing_iff { h with fill := .lineTo (.lineTo h.fill h.restX) h.beginX } h

end SameColumns

variable {σ : Type} [UsageSource σ]

theorem sameColumns_ofSource (source : σ) (horiz v w : Axis) (viewport : Viewport)
    (heldUntil : Option Int64) :
    (ofSource source ⟨horiz, v⟩ viewport heldUntil).SameColumns
      (ofSource source ⟨horiz, w⟩ viewport heldUntil) := by
  have hrun := sameColumns_blank.run horiz v w viewport.width true (UsageSource.buckets source)
  exact .ite Iff.rfl sameColumns_blank ((hrun.hold horiz v w heldUntil).close viewport.height)

end Trace

/-! ## Projections -/

/-- Two projections that differ in heights only. -/
structure Projection.SameColumns (p q : Projection) : Prop where
  outline : p.outline.SameColumns q.outline
  total : p.total = q.total
  steps : p.steps = q.steps
  cutShort : p.cutShort = q.cutShort

namespace Forecast

variable {p q : Projection}

theorem offsets_ignore_vert (f : Forecast) (w : Axis) (remaining : Nat) (x : Float32)
    (ahead : Int64) :
    { f with axes := ⟨f.axes.horiz, w⟩ }.offsets remaining x ahead =
      f.offsets remaining x ahead := by
  induction remaining generalizing x ahead with
  | zero => rfl
  | succ remaining ih =>
    simp only [offsets, ih]
    rfl

theorem sameColumns_extend (f : Forecast) (w : Axis) (ahead : Int64) (h : p.SameColumns q) :
    (f.extend ahead p).SameColumns
      ({ f with axes := ⟨f.axes.horiz, w⟩ }.extend ahead q) where
  outline := h.outline.lineTo rfl
  total := congrArg (satSum · (f.gain ahead)) h.total
  steps := congrArg (· + 1) h.steps
  cutShort := h.cutShort

/-- Both runs go on as long as the abscissa, which they share, lies left of the right edge. -/
theorem sameColumns_plot (f : Forecast) (w : Axis) (remaining : Nat) (x : Float32) (ahead : Int64)
    (h : p.SameColumns q) :
    (f.plot remaining x ahead p).SameColumns
      ({ f with axes := ⟨f.axes.horiz, w⟩ }.plot remaining x ahead q) := by
  induction remaining generalizing x ahead p q with
  | zero =>
    simp only [plot]
    split
    · exact { h with cutShort := rfl }
    · exact h
  | succ remaining ih =>
    simp only [plot]
    split
    · exact ih _ _ (sameColumns_extend f w _ h)
    · exact h

end Forecast

section

variable {σ : Type} [UsageSource σ]

/-- Traces at the same abscissa, at the same time, are continued alike in whether a mean
overflows. -/
theorem Trace.SameColumns.fits_iff {t u : Trace} (h : t.SameColumns u) (source : σ)
    (horiz v w : Axis) (width : Float32) (now : Int64) (settings : ForecastSettings) :
    Projection.Fits source ⟨horiz, v⟩ width t.origin now settings ↔
      Projection.Fits source ⟨horiz, w⟩ width u.origin now settings := by
  have htime : t.origin.time = u.origin.time := h.reached
  have hx : t.origin.point.x = u.origin.point.x := h.restX
  unfold Projection.Fits
  rw [← htime, ← hx]
  unfold Forecast.RunFits
  rw [← Forecast.offsets_ignore_vert _ w]
  rfl

theorem Trace.SameColumns.plot {t u : Trace} (h : t.SameColumns u) (source : σ)
    (horiz v w : Axis) (width : Float32) (now : Int64) (settings : ForecastSettings) :
    (Projection.plot source ⟨horiz, v⟩ width t.origin now settings).SameColumns
      (Projection.plot source ⟨horiz, w⟩ width u.origin now settings) := by
  have hstart : (Projection.start t.origin).SameColumns (Projection.start u.origin) :=
    ⟨Outline.sameColumns_empty.moveTo h.restX, h.total, rfl, rfl⟩
  have htime : t.origin.time = u.origin.time := h.reached
  have hx : t.origin.point.x = u.origin.point.x := h.restX
  unfold Projection.plot
  rw [← htime, ← hx]
  exact Forecast.sameColumns_plot _ w _ _ _ hstart

/-! ## Curves -/

namespace Curves

/-- Two triples of curves that differ in heights only, with the same totals. -/
structure SameColumns (c d : Curves) : Prop where
  stroke : c.stroke.SameColumns d.stroke
  fill : c.fill.SameColumns d.fill
  estimate : c.estimate.SameColumns d.estimate
  recordedTotal : c.recordedTotal = d.recordedTotal
  estimatedTotal : c.estimatedTotal = d.estimatedTotal

theorem SameColumns.visibleTotal {c d : Curves} (h : c.SameColumns d) (showsEstimate : Bool) :
    c.visibleTotal showsEstimate = d.visibleTotal showsEstimate := by
  simp only [Curves.visibleTotal, h.recordedTotal, h.estimatedTotal]

theorem sameColumns_blank : blank.SameColumns blank :=
  ⟨Outline.sameColumns_empty, Outline.sameColumns_empty, Outline.sameColumns_empty, rfl, rfl⟩

theorem sameColumns_plot (source : Option σ) (view : View) (horiz v w : Axis)
    (viewport : Viewport) (now : Int64) (settings : ForecastSettings) :
    (plot source view ⟨horiz, v⟩ viewport now settings).SameColumns
      (plot source view ⟨horiz, w⟩ viewport now settings) := by
  unfold plot
  split
  · exact sameColumns_blank
  · rename_i s _
    have htrace := Trace.sameColumns_ofSource s horiz v w viewport view.heldUntil
    have hprojection := htrace.plot s horiz v w viewport.width now settings
    exact ⟨htrace.stroke, htrace.fill, hprojection.outline, htrace.total, hprojection.total⟩

theorem fits_ignores_vert (source : Option σ) (view : View) (horiz v w : Axis)
    (viewport : Viewport) (now : Int64) (settings : ForecastSettings) :
    Fits source view ⟨horiz, v⟩ viewport now settings ↔
      Fits source view ⟨horiz, w⟩ viewport now settings :=
  forall₂_congr fun s _ =>
    (Trace.sameColumns_ofSource s horiz v w viewport view.heldUntil).fits_iff s horiz v w
      viewport.width now settings

/-- On two vertical axes the curves fail for the same reason, or they are drawn with the same steps
at the same abscissas and with the same totals. -/
theorem draw_ignores_vert (source : Option σ) (view : View) (horiz v w : Axis)
    (viewport : Viewport) (now : Int64) (settings : ForecastSettings) :
    (∃ e, draw source view ⟨horiz, v⟩ viewport now settings = .error e ∧
        draw source view ⟨horiz, w⟩ viewport now settings = .error e) ∨
      ∃ c d, draw source view ⟨horiz, v⟩ viewport now settings = .ok c ∧
        draw source view ⟨horiz, w⟩ viewport now settings = .ok d ∧ c.SameColumns d := by
  have hfits := fits_ignores_vert source view horiz v w viewport now settings
  rw [draw_eq, draw_eq]
  simp only [hfits]
  cases validate source viewport settings with
  | error e => exact .inl ⟨_, rfl, rfl⟩
  | ok =>
    dsimp only
    split
    · exact .inr ⟨_, _, rfl, rfl, sameColumns_plot source view horiz v w viewport now settings⟩
    · exact .inl ⟨_, rfl, rfl⟩

end Curves

end

end TrafficChart

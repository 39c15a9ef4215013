import TrafficChart.Curves
import TrafficChart.Proofs.Forecast.Exact

/-!
# Checks before drawing

Whether curves are refused is decided before anything is drawn: by the viewport, the settings and
the bucket length, whatever the axes, the view and the instant. After that only the estimate can
still fail, if one of its means overflows. So drawing is two checks followed by a plot that cannot
fail.
-/

namespace TrafficChart

variable {σ : Type} [UsageSource σ]

namespace Curves

/-- What a drawing relies on. -/
def validate (source : Option σ) (viewport : Viewport) (settings : ForecastSettings) :
    Except Refusal Unit := do
  viewport.validate
  match drawable? source with
  | none => return ()
  | some s => Projection.validate s viewport settings

/-- No mean of the estimate overflows. -/
def Fits (source : Option σ) (view : View) (axes : Axes) (viewport : Viewport) (now : Int64)
    (settings : ForecastSettings) : Prop :=
  ∀ s ∈ drawable? source, Projection.Fits s axes viewport.width
    (Trace.ofSource s axes viewport view.heldUntil).origin now settings

instance (source : Option σ) (view : View) (axes : Axes) (viewport : Viewport) (now : Int64)
    (settings : ForecastSettings) : Decidable (Fits source view axes viewport now settings) :=
  inferInstanceAs (Decidable (∀ _ ∈ _, _))

/-- The curves of a source that nothing refuses and no mean of which overflows. -/
def plot (source : Option σ) (view : View) (axes : Axes) (viewport : Viewport) (now : Int64)
    (settings : ForecastSettings) : Curves :=
  match drawable? source with
  | none => blank
  | some s =>
    let trace := Trace.ofSource s axes viewport view.heldUntil
    ofParts trace (Projection.plot s axes viewport.width trace.origin now settings)

theorem draw_eq (source : Option σ) (view : View) (axes : Axes) (viewport : Viewport)
    (now : Int64) (settings : ForecastSettings) :
    draw source view axes viewport now settings =
      match validate source viewport settings with
      | .error e => .error (.refused e)
      | .ok _ =>
        if Fits source view axes viewport now settings then
          .ok (plot source view axes viewport now settings)
        else .error (.overflow .addition) := by
  unfold draw validate plot
  cases viewport.validate with
  | error e => rfl
  | ok =>
    cases hsource : drawable? source with
    | none =>
      have hfits : Fits source view axes viewport now settings := by simp [Fits, hsource]
      exact (if_pos hfits).symm
    | some s =>
      have hfits : Fits source view axes viewport now settings ↔
          Projection.Fits s axes viewport.width
            (Trace.ofSource s axes viewport view.heldUntil).origin now settings := by
        simp [Fits, hsource]
      simp only [Projection.ofSource_eq, hfits]
      cases Projection.validate s viewport settings with
      | error e => rfl
      | ok => exact apply_ite (Except.map _) ..

/-- What was drawn is the plot. -/
theorem eq_plot_of_draw {source : Option σ} {view : View} {axes : Axes} {viewport : Viewport}
    {now : Int64} {settings : ForecastSettings} {c : Curves}
    (h : draw source view axes viewport now settings = .ok c) :
    validate source viewport settings = .ok () ∧
      Fits source view axes viewport now settings ∧
      c = plot source view axes viewport now settings := by
  rw [draw_eq] at h
  cases hcheck : validate source viewport settings with
  | error e => simp [hcheck] at h
  | ok =>
    by_cases hfits : Fits source view axes viewport now settings
    · exact ⟨rfl, hfits, by simpa [hcheck, hfits, eq_comm] using h⟩
    · simp [hcheck, hfits] at h

section

variable {source : Option σ} {view : View} {axes : Axes} {viewport : Viewport} {now : Int64}
  {settings : ForecastSettings} (h : validate source viewport settings = .ok ())

include h

theorem draw_of_fits (hfits : Fits source view axes viewport now settings) :
    draw source view axes viewport now settings =
      .ok (plot source view axes viewport now settings) := by
  simp only [draw_eq, h, hfits, if_true]

theorem draw_of_not_fits (hfits : ¬ Fits source view axes viewport now settings) :
    draw source view axes viewport now settings = .error (.overflow .addition) := by
  simp only [draw_eq, h, hfits, if_false]

end

theorem draw_of_refused {source : Option σ} {viewport : Viewport} {settings : ForecastSettings}
    {e : Refusal} (h : validate source viewport settings = .error e) (view : View) (axes : Axes)
    (now : Int64) : draw source view axes viewport now settings = .error (.refused e) := by
  rw [draw_eq, h]

theorem validate_of_valid {source : Option σ}
    (hd : ∀ s ∈ source, 0 < UsageSource.bucketLength s) {viewport : Viewport}
    (hv : viewport.Valid) {settings : ForecastSettings} (hs : settings.Valid) :
    validate source viewport settings = .ok () := by
  rw [validate, Viewport.validate_of_valid hv]
  cases hsource : drawable? source with
  | none => rfl
  | some s =>
    have hmem : s ∈ source := (Option.filter_eq_some_iff.1 hsource).1
    exact Projection.validate_of_valid (hd s hmem) hv hs

/-- Light weights never overflow. -/
theorem fits_of_weight_le {source : Option σ} {view : View} {axes : Axes} {viewport : Viewport}
    {now : Int64} {settings : ForecastSettings} (h : settings.weight ≤ 2 ^ 64 + 1) :
    Fits source view axes viewport now settings :=
  fun _ _ => Projection.fits_of_weight_le h

end Curves

end TrafficChart

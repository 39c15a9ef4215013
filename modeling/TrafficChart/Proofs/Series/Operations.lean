import TrafficChart.Proofs.Curves.Plot
import TrafficChart.Proofs.Trace.ClosedForm
import TrafficChart.Series

/-!
# What a series shows after any operations

A host binds sources, changes the view and draws, in any order. The curves of the series are those
of the last drawing: a new source or a drawing that fails leaves none, and a change of the view
leaves them as they are.

## Main definitions

* `Series.Op`, `Series.apply`, `Series.run`: the operations, one and many.
* `Series.Fresh`: a series that nothing was done with.
* `Series.Sound`: what every operation keeps.
-/

namespace TrafficChart

/-! ## The two totals -/

section

variable {σ : Type} [UsageSource σ]

theorem Forecast.le_total_plot (f : Forecast) (remaining : Nat) (x : Float32) (ahead : Int64)
    (p : Projection) : p.total ≤ (f.plot remaining x ahead p).total := by
  induction remaining generalizing x ahead p with
  | zero =>
    unfold plot
    split <;> exact UInt64.le_refl _
  | succ remaining ih =>
    unfold plot
    split
    · have hstep : p.total ≤ (f.extend (satAdd ahead f.bucketLength) p).total := le_satSum _ _
      exact UInt64.le_trans hstep (ih _ _ _)
    · exact UInt64.le_refl _

namespace Curves

/-- The estimate continues the recorded total. -/
theorem recordedTotal_le_plot (source : Option σ) (view : View) (axes : Axes)
    (viewport : Viewport) (now : Int64) (settings : ForecastSettings) :
    (plot source view axes viewport now settings).recordedTotal ≤
      (plot source view axes viewport now settings).estimatedTotal := by
  unfold plot
  split
  · exact UInt64.le_refl _
  · rename_i s _
    let trace := Trace.ofSource s axes viewport view.heldUntil
    exact Forecast.le_total_plot
      (Forecast.ofSource s axes viewport.width trace.reached now settings) settings.stepLimit
      trace.rest.x 0 (Projection.start trace.origin)

/-- Without a source nothing is drawn. -/
theorem draw_none_eq_blank {view : View} {axes : Axes} {viewport : Viewport} {now : Int64}
    {settings : ForecastSettings} {c : Curves}
    (h : draw (none : Option σ) view axes viewport now settings = .ok c) : c = blank :=
  (eq_plot_of_draw h).2.2

end Curves

end

namespace Series

/-- What a host can do with a series. -/
inductive Op (σ : Type) where
  | bind (source : σ)
  | withPrimary (start finish : Int64)
  | holdUntil (instant : Int64)
  | release
  | showEstimate (shows : Bool)
  | draw (axes : Axes) (viewport : Viewport) (now : Int64)

section

variable {σ : Type}

def Op.Binds : Op σ → Prop
  | .bind _ => True
  | _ => False

def Op.Draws : Op σ → Prop
  | .draw .. => True
  | _ => False

/-- A series that nothing was done with. -/
def Fresh (s : Series σ) : Prop := s = standard ∨ ∃ settings, withSettings settings = .ok s

theorem withSettings_eq_ok_iff {settings : ForecastSettings} {s : Series σ} :
    withSettings settings = .ok s ↔ settings.validate = .ok () ∧ s = unbound settings := by
  unfold withSettings
  cases settings.validate <;>
    simp [Bind.bind, Except.bind, pure, Except.pure, eq_comm (a := s)]

/-- What every operation keeps. -/
structure Sound (s : Series σ) : Prop where
  settings : s.settings.validate = .ok ()
  totals : s.curves.recordedTotal ≤ s.curves.estimatedTotal
  /-- Without a source there are no curves. -/
  unbound : s.source = none → s.curves = Curves.blank

theorem sound_unbound {settings : ForecastSettings} (h : settings.validate = .ok ()) :
    (unbound settings : Series σ).Sound :=
  ⟨h, UInt64.le_refl _, fun _ => rfl⟩

theorem Fresh.exists_eq_unbound {s : Series σ} (h : s.Fresh) :
    ∃ settings : ForecastSettings, settings.validate = .ok () ∧ s = unbound settings := by
  rcases h with rfl | ⟨settings, h⟩
  · have hvalid := ForecastSettings.standard_valid
    exact ⟨_, (ForecastSettings.validate_eq_ok_iff _).2 hvalid, rfl⟩
  · exact ⟨settings, withSettings_eq_ok_iff.1 h⟩

end

variable {σ : Type} [UsageSource σ]

/-- The series after one operation. A drawing that fails shows in its curves. -/
def apply (s : Series σ) : Op σ → Series σ
  | .bind source => s.bind source
  | .withPrimary start finish => s.withPrimary start finish
  | .holdUntil instant => s.holdUntil instant
  | .release => s.release
  | .showEstimate shows => s.showEstimate shows
  | .draw axes viewport now => (s.draw axes viewport now).1

/-- The series after a list of operations. -/
def run (s : Series σ) (ops : List (Op σ)) : Series σ := ops.foldl apply s

variable {s : Series σ} {op : Op σ} {ops : List (Op σ)}

/-! ## One operation -/

/-- A drawing replaces the curves, by none if it fails, and nothing else. -/
theorem fst_draw (s : Series σ) (axes : Axes) (viewport : Viewport) (now : Int64) :
    (s.draw axes viewport now).1 =
      { s with curves := (s.curvesOn axes viewport now).toOption.getD Curves.blank } := by
  unfold draw
  cases s.curvesOn axes viewport now <;> rfl

theorem settings_apply (s : Series σ) (op : Op σ) : (s.apply op).settings = s.settings := by
  cases op with
  | draw axes viewport now => rw [apply, fst_draw]
  | _ => rfl

theorem source_apply (s : Series σ) (h : ¬ op.Binds) : (s.apply op).source = s.source := by
  cases op with
  | bind source => exact absurd trivial h
  | draw axes viewport now => rw [apply, fst_draw]
  | _ => rfl

theorem curves_apply (s : Series σ) (hb : ¬ op.Binds) (hd : ¬ op.Draws) :
    (s.apply op).curves = s.curves := by
  cases op with
  | bind source => exact absurd trivial hb
  | draw axes viewport now => exact absurd trivial hd
  | _ => rfl

/-- Only a drawing makes curves. -/
theorem curves_apply_of_blank (h : s.curves = Curves.blank) (hd : ¬ op.Draws) :
    (s.apply op).curves = Curves.blank := by
  by_cases hb : op.Binds
  · cases op with
    | bind source => rfl
    | _ => exact absurd hb not_false
  · rw [curves_apply s hb hd, h]

/-- A source can be replaced, but not taken away. -/
theorem isBound_apply (h : s.isBound = true) (op : Op σ) : (s.apply op).isBound = true := by
  by_cases hb : op.Binds
  · cases op with
    | bind source => rfl
    | _ => exact absurd hb not_false
  · rw [isBound, source_apply s hb]
    exact h

theorem Sound.draw (h : s.Sound) (axes : Axes) (viewport : Viewport) (now : Int64) :
    (s.draw axes viewport now).1.Sound := by
  rw [fst_draw]
  cases hc : s.curvesOn axes viewport now with
  | error e => exact ⟨h.settings, UInt64.le_refl _, fun _ => rfl⟩
  | ok c =>
    rw [curvesOn] at hc
    refine ⟨h.settings, ?_, fun hs => ?_⟩
    · rw [(Curves.eq_plot_of_draw hc).2.2]
      exact Curves.recordedTotal_le_plot _ _ _ _ _ _
    · have hnone : s.source = none := hs
      rw [hnone] at hc
      exact Curves.draw_none_eq_blank hc

theorem Sound.apply (h : s.Sound) (op : Op σ) : (s.apply op).Sound := by
  cases op with
  | bind source => exact ⟨h.settings, UInt64.le_refl _, nofun⟩
  | draw axes viewport now => exact h.draw axes viewport now
  | _ => exact ⟨h.settings, h.totals, h.unbound⟩

/-! ## Many operations -/

theorem run_append (s : Series σ) (older newer : List (Op σ)) :
    s.run (older ++ newer) = (s.run older).run newer :=
  List.foldl_append

/-- What a series satisfies and each of the operations keeps, it satisfies after all of them. -/
theorem run_induction {P : Series σ → Prop} (hs : P s)
    (hstep : ∀ t, P t → ∀ op ∈ ops, P (t.apply op)) : P (s.run ops) :=
  List.foldlRecOn ops apply hs hstep

theorem Sound.run (h : s.Sound) (ops : List (Op σ)) : (s.run ops).Sound :=
  run_induction h fun _ ht op _ => ht.apply op

theorem settings_run (s : Series σ) (ops : List (Op σ)) :
    (s.run ops).settings = s.settings := by
  refine run_induction (P := fun t => t.settings = s.settings) rfl fun t ht op _ => ?_
  rw [settings_apply, ht]

theorem source_run (s : Series σ) (h : ∀ op ∈ ops, ¬ op.Binds) :
    (s.run ops).source = s.source := by
  refine run_induction (P := fun t => t.source = s.source) rfl fun t ht op hop => ?_
  rw [source_apply t (h op hop), ht]

theorem curves_run (s : Series σ) (h : ∀ op ∈ ops, ¬ op.Binds ∧ ¬ op.Draws) :
    (s.run ops).curves = s.curves := by
  refine run_induction (P := fun t => t.curves = s.curves) rfl fun t ht op hop => ?_
  obtain ⟨hbinds, hdraws⟩ := h op hop
  rw [curves_apply t hbinds hdraws, ht]

theorem curves_run_of_blank (hs : s.curves = Curves.blank) (h : ∀ op ∈ ops, ¬ op.Draws) :
    (s.run ops).curves = Curves.blank := by
  refine run_induction (P := fun t => t.curves = Curves.blank) hs fun t ht op hop => ?_
  exact curves_apply_of_blank ht (h op hop)

/-- After any operations on a fresh series, what it shows is decided by the last source that was
bound and the last drawing. Without a drawing since then there are no curves. Otherwise they are
those of the source, the view and the settings at the time of the last drawing, or none if it
failed, whatever changed in the view afterwards. -/
theorem run_shows_last_drawing (hs : s.Fresh) (ops : List (Op σ)) :
    (s.run ops).Sound ∧ (s.run ops).settings = s.settings ∧
    (∀ op, (s.run ops).isBound = true → ((s.run ops).apply op).isBound = true) ∧
    ((∀ op ∈ ops, ¬ op.Draws) → (s.run ops).curves = Curves.blank) ∧
    (∀ older source newer, ops = older ++ .bind source :: newer → (∀ op ∈ newer, ¬ op.Binds) →
      (s.run ops).source = some source ∧
        ((∀ op ∈ newer, ¬ op.Draws) → (s.run ops).curves = Curves.blank)) ∧
    ∀ older axes viewport now newer, ops = older ++ .draw axes viewport now :: newer →
      (∀ op ∈ newer, ¬ op.Binds ∧ ¬ op.Draws) →
      let t := s.run older
      (s.run ops).curves =
        (Curves.draw t.source t.view axes viewport now t.settings).toOption.getD
          Curves.blank := by
  obtain ⟨settings, hvalid, rfl⟩ := hs.exists_eq_unbound
  refine ⟨(sound_unbound hvalid).run ops, settings_run _ ops,
    fun op h => isBound_apply h op, curves_run_of_blank rfl, ?_, ?_⟩
  · rintro older source newer rfl hbinds
    rw [run_append]
    exact ⟨source_run _ hbinds, curves_run_of_blank rfl⟩
  · rintro older axes viewport now newer rfl hnewer t
    have hdrawn : (t.apply (.draw axes viewport now)).curves =
        (t.curvesOn axes viewport now).toOption.getD Curves.blank := by
      rw [apply, fst_draw]
    rw [run_append]
    exact (curves_run _ hnewer).trans hdrawn

/-- A history is drawn, held and released again. A second drawing then fails. -/
theorem run_of_drawn_and_failed :
    let settings : ForecastSettings := ⟨20, 10, 20, 1, 1, 5⟩
    let s : Series History := unbound settings
    let older : List (Op History) := [.showEstimate true, .bind Trace.fiveBuckets]
    let drawing (viewport : Viewport) : Op History := .draw Trace.steppedAxes viewport 50
    let drawn := older ++ [drawing ⟨50, 90⟩, .holdUntil 70, .release]
    withSettings settings = .ok s ∧ (s.run drawn).Sound ∧
      (s.run drawn).curves.recordedTotal = 13 ∧
      (s.run (drawn ++ [drawing ⟨-1, 90⟩, .holdUntil 70])).curves = Curves.blank := by
  intro settings s older drawing drawn
  have hs : withSettings settings = .ok s := rfl
  have hsets : ∀ op ∈ ([.holdUntil 70, .release] : List (Op History)),
      ¬ op.Binds ∧ ¬ op.Draws := by simp [Op.Binds, Op.Draws]
  have hlast : ∀ op ∈ ([.holdUntil 70] : List (Op History)), ¬ op.Binds ∧ ¬ op.Draws := by
    simp [Op.Binds, Op.Draws]
  obtain ⟨hsound, -, -, -, -, hcurves⟩ := run_shows_last_drawing (.inr ⟨settings, hs⟩) drawn
  obtain ⟨-, -, -, -, -, hfailed⟩ := run_shows_last_drawing (.inr ⟨settings, hs⟩)
    (drawn ++ [drawing ⟨-1, 90⟩, .holdUntil 70])
  refine ⟨hs, hsound, ?_, ?_⟩
  · rw [hcurves older Trace.steppedAxes ⟨50, 90⟩ 50 _ rfl hsets]
    decide +kernel
  · exact hfailed drawn Trace.steppedAxes ⟨-1, 90⟩ 50 _ rfl hlast

end Series

end TrafficChart

import TrafficChart.Proofs.Chart.Fitting
import TrafficChart.Proofs.History.Reachable
import TrafficChart.Proofs.Series.Operations

/-!
# When a chart is not drawn

However a chart was made and used, its settings are valid and the history it shows has a positive
bucket length. So a drawing is refused for one reason only, an invalid viewport, and this is found
before anything but the curves has changed. Both passes of a fit ask the same question and add up
the same rates, so a fit fails with its first pass or not at all.
-/

namespace TrafficChart

namespace Curves

variable {σ : Type} [UsageSource σ]

/-- The viewport is checked before anything else. -/
theorem validate_of_not_valid (source : Option σ) {viewport : Viewport}
    (h : ¬ viewport.Valid) (settings : ForecastSettings) :
    validate source viewport settings = .error (.viewport viewport.width viewport.height) := by
  rw [validate, Viewport.validate_of_not_valid h]
  rfl

end Curves

namespace Chart

section

variable {σ : Type} [UsageSource σ]

/-- A fit that is refused ends with its first drawing. -/
theorem fit_of_refused {c : Chart σ} {e : Refusal} (h : c.validate = .error e) (now : Int64) :
    c.fit now = (c.undrawn, .error (.refused e)) := by
  rw [fit, draw_of_refused h]

/-- So does one that overflows. -/
theorem fit_of_not_fits {c : Chart σ} {now : Int64} (h : c.validate = .ok ())
    (hfits : ¬ c.Fits now) : c.fit now = (c.undrawn, .error (.overflow .addition)) := by
  rw [fit, draw_of_not_fits h hfits]

/-- A drawing changes the curves at most. -/
theorem exists_fst_draw_eq (c : Chart σ) (now : Int64) :
    ∃ curves, (c.draw now).1 = { c with series := { c.series with curves } } := by
  have hseries := Series.fst_draw c.series c.axes c.viewport now
  exact ⟨_, congrArg (fun series => { c with series }) hseries⟩

/-- A fit changes the curves at most and the ends of the data scale, which then begins at zero. -/
theorem exists_fst_fit_eq (c : Chart σ) (now : Int64) :
    ∃ data curves, (c.fit now).1 = { c with data, series := { c.series with curves } } ∧
      (data = c.data ∨ ∃ top, data = c.data.withBounds 0 top) := by
  cases h : c.validate with
  | error e => exact ⟨c.data, Curves.blank, by rw [fit_of_refused h]; rfl, .inl rfl⟩
  | ok =>
    by_cases hfits : c.Fits now
    · exact ⟨_, _, by rw [fit_of_fits h hfits]; rfl, .inr ⟨_, rfl⟩⟩
    · exact ⟨c.data, Curves.blank, by rw [fit_of_not_fits h hfits]; rfl, .inl rfl⟩

end

/-! ## Charts that can arise -/

/-- The charts that can arise. A chart may be given another series, and its scales, its viewport and
its least top may be set to anything. The histories that are bound are those that can arise. -/
inductive Reachable : Chart History → Prop
  | create (viewport : Viewport) : Reachable (create viewport)
  | withSeries {c : Chart History} {s : Series History} :
    Reachable c → s.Fresh → Reachable { c with series := s }
  | apply {c : Chart History} {op : Series.Op History} :
    Reachable c → (∀ h, op = .bind h → h.Reachable) →
      Reachable { c with series := c.series.apply op }
  | bind {c : Chart History} {h : History} : Reachable c → h.Reachable → Reachable (c.bind h)
  | resize {c : Chart History} (viewport : Viewport) : Reachable c → Reachable (c.resize viewport)
  | showTimes {c : Chart History} (start finish : Int64) :
    Reachable c → Reachable (c.showTimes start finish)
  | draw {c : Chart History} (now : Int64) : Reachable c → Reachable (c.draw now).1
  | fit {c : Chart History} (now : Int64) : Reachable c → Reachable (c.fit now).1
  | withScales {c : Chart History} (time data : Scale) :
    Reachable c → Reachable { c with time, data }
  | withViewport {c : Chart History} (viewport : Viewport) :
    Reachable c → Reachable { c with viewport }
  | withLeastTop {c : Chart History} (leastTop : Int64) :
    Reachable c → Reachable { c with leastTop }

/-- What a drawing relies on, apart from the viewport. -/
structure Sound (c : Chart History) : Prop where
  settings_valid : c.series.settings.Valid
  bucketLength_pos : ∀ h ∈ c.series.source, 0 < h.bucketLength

variable {c d : Chart History}

/-- Only the settings and the source count. -/
theorem Sound.congr (h : c.Sound) (hsettings : d.series.settings = c.series.settings)
    (hsource : d.series.source = c.series.source) : d.Sound :=
  ⟨hsettings ▸ h.settings_valid, hsource ▸ h.bucketLength_pos⟩

theorem Sound.of_fresh {s : Series History} (hs : s.Fresh) (c : Chart History) :
    Sound { c with series := s } := by
  obtain ⟨settings, hvalid, rfl⟩ := hs.exists_eq_unbound
  exact ⟨(ForecastSettings.validate_eq_ok_iff settings).1 hvalid, nofun⟩

theorem Sound.bind (h : c.Sound) {history : History} (hr : history.Reachable) :
    (c.bind history).Sound := by
  refine ⟨h.settings_valid, ?_⟩
  rintro _ ⟨rfl⟩
  exact hr.bucketLength_pos

theorem Sound.apply (h : c.Sound) {op : Series.Op History}
    (hop : ∀ h, op = .bind h → h.Reachable) :
    Sound { c with series := c.series.apply op } := by
  by_cases hb : op.Binds
  · cases op with
    | bind history => exact h.bind (hop history rfl)
    | _ => exact absurd hb not_false
  · exact h.congr (Series.settings_apply c.series op) (Series.source_apply c.series hb)

theorem Sound.draw (h : c.Sound) (now : Int64) : (c.draw now).1.Sound := by
  obtain ⟨curves, heq⟩ := c.exists_fst_draw_eq now
  rw [heq]
  exact h.congr rfl rfl

theorem Sound.fit (h : c.Sound) (now : Int64) : (c.fit now).1.Sound := by
  obtain ⟨data, curves, heq, -⟩ := c.exists_fst_fit_eq now
  rw [heq]
  exact h.congr rfl rfl

theorem Reachable.sound (hc : c.Reachable) : c.Sound := by
  induction hc with
  | create viewport => exact ⟨ForecastSettings.standard_valid, nofun⟩
  | @withSeries c s _ hs _ => exact .of_fresh hs c
  | apply _ hop ih => exact ih.apply hop
  | bind _ hr ih => exact ih.bind hr
  | draw now _ ih => exact ih.draw now
  | fit now _ ih => exact ih.fit now
  | resize _ _ ih | showTimes _ _ _ ih | withScales _ _ _ ih | withViewport _ _ ih
  | withLeastTop _ _ ih => exact ih.congr rfl rfl

/-! ## Refusals -/

theorem Sound.validate (h : c.Sound) (hv : c.viewport.Valid) : c.validate = .ok () :=
  Curves.validate_of_valid h.bucketLength_pos hv h.settings_valid

/-- A chart that can arise is refused if its viewport is not valid, with that as the reason. If it
is valid, the chart is drawn and fitted, unless a mean overflows already in the first pass. When
drawing or fitting fails, all that changes is that the curves are gone. -/
theorem refused_iff_viewport (hc : c.Reachable) (now : Int64) :
    let undrawn := { c with series := { c.series with curves := Curves.blank } }
    (c.viewport.Valid →
      (c.Fits now → (c.draw now).2 = .ok () ∧ ∃ top, (c.fit now).2 = .ok top) ∧
      (¬ c.Fits now →
        c.draw now = (undrawn, .error (.overflow .addition)) ∧
          c.fit now = (undrawn, .error (.overflow .addition)))) ∧
    (¬ c.viewport.Valid →
      let refusal := Refusal.viewport c.viewport.width c.viewport.height
      c.draw now = (undrawn, .error (.refused refusal)) ∧
        c.fit now = (undrawn, .error (.refused refusal))) := by
  intro undrawn
  constructor
  · intro hv
    have hcheck := hc.sound.validate hv
    refine ⟨fun hfits => ?_, fun hfits => ?_⟩
    · rw [draw_of_fits hcheck hfits, fit_of_fits hcheck hfits]
      exact ⟨rfl, _, rfl⟩
    · exact ⟨draw_of_not_fits hcheck hfits, fit_of_not_fits hcheck hfits⟩
  · intro hv
    have hcheck : c.validate = .error (.viewport c.viewport.width c.viewport.height) :=
      Curves.validate_of_not_valid c.series.source hv c.series.settings
    exact ⟨draw_of_refused hcheck now, fit_of_refused hcheck now⟩

/-- A chart that can be drawn, and the same one after a fit, when it is given a negative width. -/
theorem refused_of_negative_width :
    let c := littleTraffic 100
    let narrow : Chart History := { (c.fit 3000).1 with viewport := ⟨-1, 100⟩ }
    c.Reachable ∧ c.viewport.Valid ∧ (c.draw 3000).2 = .ok () ∧
      narrow.Reachable ∧ ¬ narrow.viewport.Valid ∧ narrow.series.visibleTotal = 1000 ∧
      narrow.fit 3000 = ({ narrow with series := { narrow.series with curves := Curves.blank } },
        .error (.refused (.viewport (-1) 100))) := by
  intro c narrow
  have hbuckets : History.ofBuckets 1000 littleHistory.toList = .ok littleHistory := rfl
  have hc : c.Reachable :=
    .withLeastTop 100 (.showTimes 0 3000 (.bind (.create ⟨300, 100⟩) (.ofBuckets hbuckets)))
  have hv : c.viewport.Valid := by decide
  have hnarrow : narrow.Reachable := .withViewport ⟨-1, 100⟩ (.fit 3000 hc)
  have hneg : ¬ narrow.viewport.Valid := by decide
  have hfits : c.Fits 3000 := Curves.fits_of_weight_le (by decide)
  obtain ⟨hdraw, -⟩ := ((refused_iff_viewport hc 3000).1 hv).1 hfits
  exact ⟨hc, hv, hdraw, hnarrow, hneg, by decide +kernel,
    ((refused_iff_viewport hnarrow 3000).2 hneg).2⟩

end Chart

end TrafficChart

import TrafficChart.Proofs.Curves.Points

/-!
# Heights along the curves

On an inverted axis the stroke climbs from bucket to bucket and the estimate from step to step,
since totals only grow. Two seams are left. The flat continuation lies at the height of the
resting point, which is the point before the last one if the last bucket drawn ends beyond the
right edge. And the estimate begins at the origin of the screen if already the oldest bucket ends
there. The curves climb but for a fall at one of these seams.
-/

namespace TrafficChart

/-! ## Strokes -/

namespace Trace

variable {axes : Axes} {width : Float32} {buckets : List Bucket}

/-- The last point of a stroke lies above the resting point only if it is another one. -/
theorem not_lt_restPoint_iff {s : ℕ} (hs : startIndex? axes width buckets = some s) :
    let stop := stopIndex axes width buckets
    ¬ (pointAt axes buckets s stop).y < (restPoint axes width buckets).y ↔
      (width < endX axes buckets stop →
        ¬ (pointAt axes buckets s stop).y < (pointAt axes buckets s (stop - 1)).y) := by
  intro stop
  rw [restPoint_of_startIndex? hs, restIndex]
  by_cases hx : width < endX axes buckets stop
  · rw [if_pos hx, forall_prop_of_true hx]
  · rw [if_neg hx, forall_prop_of_false hx]
    exact iff_true_intro (Pixel.lt_irrefl _)

theorem climbs_stroke_iff (hvert : axes.vert.Inverted) {h : History} (hsize : 2 ≤ h.size)
    (viewport : Viewport) (heldUntil : Option Int64) :
    let bs := h.toList
    let stop := stopIndex axes viewport.width bs
    (ofSource h axes viewport heldUntil).stroke.Climbs ↔
      ∀ s ∈ startIndex? axes viewport.width bs, ∀ instant ∈ heldUntil,
        bs[stop]!.finish < instant → viewport.width < endX axes bs stop →
          ¬ (pointAt axes bs s stop).y < (pointAt axes bs s (stop - 1)).y := by
  intro bs stop
  cases hs : startIndex? axes viewport.width bs with
  | none =>
    rw [stroke_history_of_none hsize axes viewport heldUntil hs]
    simp [Outline.Climbs, Outline.points]
  | some s =>
    have hclimb (i : ℕ) : ¬ (pointAt axes bs s i).y < (pointAt axes bs s (i + 1)).y :=
      hvert.not_lt (bytesOf_mono i.le_succ)
    rw [Outline.Climbs, isChain_stroke_iff hsize axes viewport heldUntil hs rfl,
      and_iff_right fun i _ _ => hclimb i]
    simp only [Option.mem_some_iff, forall_eq']
    exact forall₃_congr fun _ _ _ => not_lt_restPoint_iff hs

/-! ## Estimates -/

/-- A trace that has left the origin rests at the height of a total that it has counted. -/
theorem exists_y_restPoint (hx : ¬ width < endX axes buckets 0) :
    ∃ counted ≤ bytesOf buckets (firstIndex axes width buckets)
        (stopIndex axes width buckets + 1),
      (restPoint axes width buckets).y = axes.vert (axisValue counted) := by
  rw [restPoint_of_not_beyond hx]
  exact ⟨_, bytesOf_mono (restIndex_le.trans (Nat.le_succ _)), rfl⟩

end Trace

namespace Forecast

variable {f : Forecast} {o : Outline} {p : Point} {total : UInt64} {m : ℕ}

/-- An outline that goes on from a point by the steps of a forecast climbs if it does so with the
first step. -/
theorem climbs_iff (hvert : f.axes.vert.Inverted)
    (ho : o.points = p ::
      (List.range' 1 m).map fun j => f.pointAt (f.aheadAt j) (f.totalAt total j)) :
    o.Climbs ↔ ∀ q ∈ o.points[1]?, ¬ p.y < q.y := by
  have hclimb (j : ℕ) : ¬ (f.pointAt (f.aheadAt j) (f.totalAt total j)).y <
      (f.pointAt (f.aheadAt (j + 1)) (f.totalAt total (j + 1))).y :=
    hvert.not_lt (f.totalAt_mono total j.le_succ)
  rw [Outline.Climbs, ho, isChain_cons_map_range', and_iff_left fun j _ _ => hclimb j]
  cases m <;> simp [List.range'_succ]

/-- It does so from the height of a total that the forecast continues. -/
theorem climbs_of_counted (hvert : f.axes.vert.Inverted)
    (ho : o.points = p ::
      (List.range' 1 m).map fun j => f.pointAt (f.aheadAt j) (f.totalAt total j))
    {counted : UInt64} (hle : counted ≤ total) (hp : p.y = f.axes.vert (axisValue counted)) :
    o.Climbs := by
  rw [climbs_iff hvert ho, ho, hp]
  cases m with
  | zero => simp
  | succ m =>
    have hgrow : counted ≤ f.totalAt total 1 := UInt64.le_trans hle (f.le_totalAt total 1)
    simpa [List.range'_succ, pointAt] using hvert.not_lt hgrow

end Forecast

/-! ## Both curves -/

/-- The stroke climbs unless it is held after its last bucket ended beyond the right edge and had
risen. The estimate climbs unless already the oldest bucket ends beyond the right edge, and the
first step leads below the upper edge of the screen. -/
theorem Curves.draw_climbs_iff {h : History} (hr : h.Reachable) (hsize : 2 ≤ h.size) (view : View)
    {axes : Axes} (hvert : axes.vert.Inverted) {viewport : Viewport} (hv : viewport.Valid)
    (now : Int64) {settings : ForecastSettings} (hs : settings.Valid) :
    let bs := h.toList
    let stop := Trace.stopIndex axes viewport.width bs
    (Fits (some h) view axes viewport now settings →
      ∃ c, draw (some h) view axes viewport now settings = .ok c ∧
        (c.stroke.Climbs ↔
          ∀ s ∈ Trace.startIndex? axes viewport.width bs, ∀ instant ∈ view.heldUntil,
            bs[stop]!.finish < instant → viewport.width < Trace.endX axes bs stop →
              ¬ (Trace.pointAt axes bs s stop).y < (Trace.pointAt axes bs s (stop - 1)).y) ∧
        (c.estimate.Climbs ↔
          (viewport.width < Trace.endX axes bs 0 → ∀ p ∈ c.estimate.points[1]?, ¬ 0 < p.y))) ∧
    (¬ Fits (some h) view axes viewport now settings →
      draw (some h) view axes viewport now settings = .error (.overflow .addition)) := by
  intro bs stop
  refine draw_of_reachable hr hv hs ?_
  let f := Forecast.ofSource h axes viewport.width
    (Trace.ofSource h axes viewport view.heldUntil).reached now settings
  have hf : f.axes.vert.Inverted := hvert
  obtain ⟨m, hstroke, hestimate, -⟩ := points_plot hr hsize view axes viewport now hs
  constructor
  · rw [hstroke]
    exact Trace.climbs_stroke_iff hvert hsize viewport view.heldUntil
  · rw [Trace.rest_history hsize] at hestimate
    -- The estimate begins at the height of a counted total, unless it begins at the origin.
    by_cases hx : viewport.width < Trace.endX axes bs 0
    · rw [forall_prop_of_true hx, Forecast.climbs_iff hf hestimate,
        Trace.restPoint_of_beyond hx]
      rfl
    · have hcounted := Trace.exists_y_restPoint hx
      rw [← Trace.total_history hsize axes viewport view.heldUntil] at hcounted
      obtain ⟨counted, hle, hy⟩ := hcounted
      exact iff_of_true (Forecast.climbs_of_counted hf hestimate hle hy)
        fun hbeyond => absurd hbeyond hx

/-- A stroke whose last bucket ends beyond the right edge at 50, at the upper of two heights. Held
flat to a later instant, it falls back to the lower one. -/
theorem Curves.draw_of_held_beyond_edge :
    let h : History := ⟨10, #[⟨0, 10, 5, 0⟩, ⟨10, 10, 5, 0⟩, ⟨20, 10, 5, 0⟩]⟩
    let view : View := ⟨0, 0, some 40, false⟩
    let axes : Axes :=
      ⟨fun t => if t < 30 then 20 else 60, fun bytes => if bytes < 5 then 90 else 80⟩
    h.Reachable ∧ 2 ≤ h.size ∧ axes.vert.Inverted ∧ Viewport.Valid ⟨50, 100⟩ ∧
      ∃ c, draw (some h) view axes ⟨50, 100⟩ 30 .standard = .ok c ∧
        ¬ c.stroke.Climbs ∧ c.estimate.Climbs := by
  intro h view axes
  have hbuckets : History.ofBuckets 10 h.toList = .ok h := rfl
  have hvert : axes.vert.Inverted := by
    intro m n hmn
    have hle : axisValue m ≤ axisValue n := Axis.axisValue_mono (UInt64.le_of_lt hmn)
    dsimp only [axes]
    split
    · split <;> decide
    · rename_i hm
      rw [if_neg fun hn => hm (Int64.lt_of_le_of_lt hle hn)]
      decide
  have hv : Viewport.Valid ⟨50, 100⟩ := by decide
  have hs : Trace.startIndex? axes 50 h.toList = some 1 := by decide
  have hfits : Fits (some h) view axes ⟨50, 100⟩ 30 .standard := fits_of_weight_le (by decide)
  obtain ⟨c, hdraw, hstroke, hestimate⟩ := (draw_climbs_iff (.ofBuckets hbuckets) (by decide) view
    hvert hv 30 ForecastSettings.standard_valid).1 hfits
  refine ⟨.ofBuckets hbuckets, by decide, hvert, hv, c, hdraw, ?_, ?_⟩
  · rw [hstroke]
    intro hflat
    exact hflat 1 hs 40 rfl (by decide) (by decide) (by decide)
  · exact hestimate.2 fun hbeyond => absurd hbeyond (by decide)

/-- A chart on which already the oldest bucket ends beyond the right edge at 50. The estimate
begins at the upper edge and falls. -/
theorem Curves.estimate_falls_from_origin :
    let h : History := ⟨10, #[⟨0, 10, 5, 0⟩, ⟨10, 10, 5, 0⟩]⟩
    let axes : Axes := ⟨fun _ => 60, fun _ => 90⟩
    h.Reachable ∧ 2 ≤ h.size ∧ axes.horiz.Rising ∧ axes.vert.Inverted ∧
      Viewport.Valid ⟨50, 100⟩ ∧
      ∃ c, draw (some h) .initial axes ⟨50, 100⟩ 20 .standard = .ok c ∧
        ¬ c.estimate.Climbs := by
  intro h axes
  have hbuckets : History.ofBuckets 10 h.toList = .ok h := rfl
  have hhoriz : axes.horiz.Rising := fun _ _ _ => (by decide : (60 : Float32) ≤ 60)
  have hvert : axes.vert.Inverted := fun _ _ _ => (by decide : ¬ (90 : Float32) < 90)
  have hv : Viewport.Valid ⟨50, 100⟩ := by decide
  have hsize : 2 ≤ h.size := by decide
  have hr : h.Reachable := .ofBuckets hbuckets
  obtain ⟨m, -, hestimate, hm⟩ := points_plot hr hsize .initial axes ⟨50, 100⟩ 20
    ForecastSettings.standard_valid
  have hdraw := draw_of_weight_le hr hv ForecastSettings.standard_valid (by decide) .initial axes 20
  refine ⟨hr, hsize, hhoriz, hvert, hv, _, hdraw, ?_⟩
  have hfirst : m ≠ 0 := hm.2 (by decide)
  rw [Outline.Climbs, hestimate, isChain_cons_map_range']
  intro hclimb
  exact hclimb.1 hfirst (by decide)

end TrafficChart

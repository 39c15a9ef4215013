import TrafficChart.Proofs.Curves.Points

/-!
# Curves from left to right

On a rising axis the stroke runs to the right, since buckets end one after the other, and it is
held only to a later instant. So does the estimate from step to step. But its steps count from
the end of the last bucket, also when it begins at the instant up to which the stroke is held:
if that instant lies right of the first step, the estimate begins with a leap to the left.
-/

namespace TrafficChart

/-! ## Strokes -/

namespace Trace

variable {axes : Axes} {width : Float32} {buckets : List Bucket}

theorem finish_le_finish (ho : Ordered buckets) {i j : ℕ} (hij : i ≤ j)
    (hj : j < buckets.length) : buckets[i]!.finish ≤ buckets[j]!.finish := by
  rw [getElem!_pos buckets i (by omega), getElem!_pos buckets j hj]
  rcases Nat.eq_or_lt_of_le hij with rfl | hlt
  · exact Int64.le_refl _
  · exact List.pairwise_iff_getElem.1 ho.finish_mono i j _ hj hlt

theorem runsRight_stroke (hhoriz : axes.horiz.Rising) {h : History} (ho : Ordered h.toList)
    (hsize : 2 ≤ h.size) (viewport : Viewport) (heldUntil : Option Int64) :
    (ofSource h axes viewport heldUntil).stroke.RunsRight := by
  cases hs : startIndex? axes viewport.width h.toList with
  | none =>
    rw [stroke_history_of_none hsize axes viewport heldUntil hs]
    exact .nil
  | some s =>
    have hlast : stopIndex axes viewport.width h.toList < h.toList.length :=
      stopIndex_lt (History.toList_ne_nil hsize)
    rw [Outline.RunsRight, isChain_stroke_iff hsize axes viewport heldUntil hs rfl]
    constructor
    · intro i _ hi
      exact hhoriz _ _ (finish_le_finish ho i.le_succ (by omega))
    · intro instant _ hlt
      exact hhoriz _ _ (Int64.le_of_lt hlt)

/-- A trace does not rest right of the bucket it stops at. -/
theorem x_restPoint_le (hhoriz : axes.horiz.Rising) (hwidth : 0 ≤ width) (ho : Ordered buckets)
    (hne : buckets ≠ []) {instant : Int64}
    (hlater : buckets[stopIndex axes width buckets]!.finish ≤ instant) :
    (restPoint axes width buckets).x ≤ axes.horiz instant := by
  have hend {i : ℕ} (hi : i ≤ stopIndex axes width buckets) :
      endX axes buckets i ≤ axes.horiz instant :=
    hhoriz _ _ (Int64.le_trans (finish_le_finish ho hi (stopIndex_lt hne)) hlater)
  by_cases hx : width < endX axes buckets 0
  · rw [restPoint_of_beyond hx]
    exact Pixel.le_trans hwidth (Pixel.le_trans (Pixel.le_of_lt hx) (hend (Nat.zero_le _)))
  · rw [restPoint_of_not_beyond hx]
    exact hend restIndex_le

end Trace

/-! ## Estimates -/

/-- An outline that goes on from a point by the steps of a forecast runs to the right if it does
so with the first step. -/
theorem Forecast.runsRight_iff {f : Forecast} (hd : 0 < f.bucketLength)
    (hhoriz : f.axes.horiz.Rising) {o : Outline} {p : Point} {total : UInt64} {m : ℕ}
    (ho : o.points = p ::
      (List.range' 1 m).map fun j => f.pointAt (f.aheadAt j) (f.totalAt total j)) :
    o.RunsRight ↔ (m ≠ 0 → p.x ≤ f.axes.horiz (satAdd f.time f.bucketLength)) := by
  have hright (j : ℕ) : (f.pointAt (f.aheadAt j) (f.totalAt total j)).x ≤
      (f.pointAt (f.aheadAt (j + 1)) (f.totalAt total (j + 1))).x :=
    hhoriz _ _ (satAdd_mono (Int64.le_refl _)
      (aheadAt_mono (Int64.lt_iff_toInt_lt.1 hd) j.le_succ))
  rw [Outline.RunsRight, ho, isChain_cons_map_range', and_iff_left fun j _ _ => hright j,
    pointAt, aheadAt_one]

/-! ## Both curves -/

/-- The stroke runs to the right. The estimate does so unless it begins on the screen, at an
instant up to which the stroke is held, and its first step lies left of that. -/
theorem Curves.draw_runsRight_iff {h : History} (hr : h.Reachable) (hsize : 2 ≤ h.size)
    (view : View) {axes : Axes} (hhoriz : axes.horiz.Rising) {viewport : Viewport}
    (hv : viewport.Valid) (now : Int64) {settings : ForecastSettings} (hs : settings.Valid) :
    let bs := h.toList
    let reached := bs[Trace.stopIndex axes viewport.width bs]!.finish
    (Fits (some h) view axes viewport now settings →
      ∃ c, draw (some h) view axes viewport now settings = .ok c ∧
        c.stroke.RunsRight ∧
        (c.estimate.RunsRight ↔
          ∀ instant ∈ view.heldUntil, reached < instant → axes.horiz instant < viewport.width →
            axes.horiz instant ≤ axes.horiz (satAdd reached h.bucketLength))) ∧
    (¬ Fits (some h) view axes viewport now settings →
      draw (some h) view axes viewport now settings = .error (.overflow .addition)) := by
  intro bs reached
  refine draw_of_reachable hr hv hs ?_
  let t := Trace.ofSource h axes viewport view.heldUntil
  let f := Forecast.ofSource h axes viewport.width t.reached now settings
  have hd : 0 < f.bucketLength := hr.bucketLength_pos
  have hf : f.axes.horiz.Rising := hhoriz
  have hreached : t.reached = reached := Trace.reached_history hsize axes viewport view.heldUntil
  obtain ⟨m, hstroke, hestimate, hm⟩ := points_plot hr hsize view axes viewport now hs
  constructor
  · rw [hstroke]
    exact Trace.runsRight_stroke hhoriz hr.ordered hsize viewport view.heldUntil
  · have hrest : t.rest.x = ((Trace.heldLater view.heldUntil reached).map axes.horiz).getD
        (Trace.restPoint axes viewport.width bs).x := by
      rw [← hreached]
      exact congrArg Point.x (Trace.rest_history hsize axes viewport view.heldUntil)
    have hstart : (plot (some h) view axes viewport now settings).estimate.RunsRight ↔
        (t.rest.x < viewport.width → t.rest.x ≤ axes.horiz (satAdd reached h.bucketLength)) := by
      rw [Forecast.runsRight_iff hd hf hestimate, hm, ← hreached]
      rfl
    rw [hstart, hrest]
    -- Not held, the trace rests no further right than the bucket from whose end the steps count.
    cases hheld : Trace.heldLater view.heldUntil reached with
    | none =>
      refine iff_of_true (fun _ => ?_) fun instant hinstant hlt => ?_
      · exact Trace.x_restPoint_le hhoriz hv.1.2 hr.ordered (History.toList_ne_nil hsize)
          (le_satAdd reached (Int64.le_of_lt hd))
      · have hmem := Trace.mem_heldLater.2 ⟨hinstant, hlt⟩
        rw [hheld] at hmem
        cases hmem
    | some instant =>
      obtain ⟨hinstant, hlt⟩ := Trace.mem_heldLater.1 hheld
      rw [hinstant]
      simp [hlt]

/-- An axis of three pixels. -/
def stairs : Axis := fun t => if t < 50 then 10 else if t < 80 then 50 else 100

theorem rising_stairs : stairs.Rising := by
  intro s t hst
  have hlt {edge : Int64} (ht : t < edge) : s < edge := Int64.lt_of_le_of_lt hst ht
  unfold stairs
  split
  · split
    · decide
    · split <;> decide
  · rename_i hs
    rw [if_neg fun ht => hs (hlt ht)]
    split
    · split <;> decide
    · rename_i hs
      rw [if_neg fun ht => hs (hlt ht)]
      decide

/-- A stroke that is held for one bucket length, to where the first step leads. -/
theorem Curves.draw_of_held_one_step :
    let h : History := ⟨10, #[⟨0, 10, 5, 0⟩, ⟨10, 10, 5, 0⟩]⟩
    let view : View := ⟨0, 0, some 30, false⟩
    let axes : Axes := ⟨stairs, fun _ => 90⟩
    h.Reachable ∧ 2 ≤ h.size ∧ axes.horiz.Rising ∧ Viewport.Valid ⟨100, 90⟩ ∧
      ∃ c, draw (some h) view axes ⟨100, 90⟩ 20 .standard = .ok c ∧
        c.stroke.RunsRight ∧ c.estimate.RunsRight := by
  intro h view axes
  have hbuckets : History.ofBuckets 10 h.toList = .ok h := rfl
  have hhoriz : axes.horiz.Rising := rising_stairs
  have hv : Viewport.Valid ⟨100, 90⟩ := by decide
  have hsize : 2 ≤ h.size := by decide
  have hfits : Fits (some h) view axes ⟨100, 90⟩ 20 .standard := fits_of_weight_le (by decide)
  obtain ⟨c, hdraw, hstroke, hestimate⟩ := (draw_runsRight_iff (.ofBuckets hbuckets) hsize view
    hhoriz hv 20 ForecastSettings.standard_valid).1 hfits
  refine ⟨.ofBuckets hbuckets, hsize, hhoriz, hv, c, hdraw, hstroke, hestimate.2 ?_⟩
  rintro _ ⟨rfl⟩ - -
  decide

/-- A stroke that is held for five bucket lengths. The estimate begins there, and its first step
leads back to where the buckets end. -/
theorem Curves.estimate_leaps_back :
    let h : History := ⟨10, #[⟨0, 10, 5, 0⟩, ⟨10, 10, 5, 0⟩]⟩
    let view : View := ⟨0, 0, some 70, false⟩
    let axes : Axes := ⟨stairs, fun _ => 90⟩
    h.Reachable ∧ 2 ≤ h.size ∧ axes.horiz.Rising ∧ Viewport.Valid ⟨100, 90⟩ ∧
      ∃ c, draw (some h) view axes ⟨100, 90⟩ 20 .standard = .ok c ∧ ¬ c.estimate.RunsRight := by
  intro h view axes
  have hbuckets : History.ofBuckets 10 h.toList = .ok h := rfl
  have hv : Viewport.Valid ⟨100, 90⟩ := by decide
  have hsize : 2 ≤ h.size := by decide
  have hr : h.Reachable := .ofBuckets hbuckets
  obtain ⟨m, -, hestimate, hm⟩ := points_plot hr hsize view axes ⟨100, 90⟩ 20
    ForecastSettings.standard_valid
  have hdraw := draw_of_weight_le hr hv ForecastSettings.standard_valid (by decide) view axes 20
  have hfirst : m ≠ 0 := hm.2 (by decide)
  refine ⟨hr, hsize, rising_stairs, hv, _, hdraw, ?_⟩
  rw [Outline.RunsRight, hestimate, isChain_cons_map_range']
  intro hright
  exact absurd (hright.1 hfirst) (by decide)

end TrafficChart

import TrafficChart.Proofs.Curves.Points
import TrafficChart.Proofs.Forecast.Windows
import TrafficChart.Proofs.Trace.Shift

/-!
# Curves do not depend on the epoch

A history that is moved in time has the same curves on an axis that is moved along, if the instant
up to which it is held and the present move too. So nothing depends on the sign of instants or on
their alignment to days or weeks, as long as no instant that is computed leaves the range.
-/

namespace TrafficChart

/-! ## Projections -/

namespace Forecast

/-- The instants that are computed for the bucket that ends `ahead` of the origin: the origin one
season back, both ends of the seasonal window, and the end of the bucket if it fits. -/
def stepInstants (f : Forecast) (ahead : Int64) : List Int :=
  let seasonStart := f.time.toInt - f.settings.season.toInt
  let anchor := seasonStart + ahead.toInt % f.settings.season.toInt
  [seasonStart, anchor, anchor - f.settings.seasonalWindow.toInt] ++
    if f.Fits ahead then [f.time.toInt + ahead.toInt] else []

/-- The instants that a forecast computes from where the curve stands. -/
def instants (f : Forecast) (x : Float32) : List Int :=
  (f.time.toInt - f.settings.trendWindow.toInt) ::
    (f.offsets f.settings.stepLimit x 0).flatMap f.stepInstants

theorem fits_iff_of_increment_eq {f g : Forecast} {ahead : Int64}
    (h : g.increment ahead = f.increment ahead) : g.Fits ahead ↔ f.Fits ahead := by
  rw [increment_eq, increment_eq] at h
  split at h <;> split at h <;> simp_all

/-- Two runs are the same if the forecasts agree on the buckets that both of them come to. -/
theorem run_congr_of_offsets {f g : Forecast} (hwidth : g.width = f.width)
    (hlen : g.bucketLength = f.bucketLength) {remaining : Nat} {x : Float32} {ahead : Int64}
    (h : ∀ next ∈ f.offsets remaining x ahead, next ∈ g.offsets remaining x ahead →
      g.increment next = f.increment next ∧ (f.Fits next → g.pointAt next = f.pointAt next))
    (p : Projection) : g.run remaining x ahead p = f.run remaining x ahead p := by
  induction remaining generalizing x ahead p with
  | zero => rw [run, run, hwidth]
  | succ remaining ih =>
    by_cases hx : x < f.width
    · have hx' : x < g.width := hwidth ▸ hx
      rw [f.offsets_succ_of_lt _ _ hx, g.offsets_succ_of_lt _ _ hx', hlen] at h
      obtain ⟨hincrement, hpoint⟩ := h _ List.mem_cons_self List.mem_cons_self
      have hsame := fits_iff_of_increment_eq hincrement
      rw [f.run_succ_of_lt _ _ _ hx, g.run_succ_of_lt _ _ _ hx', hlen]
      by_cases hfits : f.Fits (satAdd ahead f.bucketLength)
      · have hpoint := hpoint hfits
        -- Both go on from the same place, so they come to the same next bucket.
        have hhoriz : g.axes.horiz (satAdd g.time (satAdd ahead f.bucketLength)) =
            f.axes.horiz (satAdd f.time (satAdd ahead f.bucketLength)) :=
          congrArg Point.x (congrFun hpoint 0)
        have hadvance : g.advance (satAdd ahead f.bucketLength) p =
            f.advance (satAdd ahead f.bucketLength) p := by
          simp only [advance, grow, hincrement, hpoint]
        rw [if_pos hfits, if_pos (hsame.2 hfits), hhoriz] at h
        rw [hadvance, advance_of_fits hfits, hhoriz]
        exact ih (fun next hf hg => h next (List.mem_cons_of_mem _ hf)
          (List.mem_cons_of_mem _ hg)) _
      · rw [advance_of_not_fits hfits, advance_of_not_fits (mt hsame.1 hfits)]
        rfl
    · rw [f.run_of_not_lt _ _ _ hx, g.run_of_not_lt _ _ _ (hwidth ▸ hx)]

/-- `g` is the forecast `f`, `d` milliseconds later: its axes are moved along, and it finds the
same rates in windows that are moved along. -/
structure Moved (d : Int) (f g : Forecast) : Prop where
  axes : g.axes = f.axes.shift d
  width : g.width = f.width
  time : g.time = shift d f.time
  bucketLength : g.bucketLength = f.bucketLength
  settings : g.settings = f.settings
  trend : g.trend = f.trend
  seasonal : ∀ instant < f.time, InRange (instant.toInt + d) →
    InRange (instant.toInt - f.settings.seasonalWindow.toInt) →
    InRange (instant.toInt + d - f.settings.seasonalWindow.toInt) →
    g.seasonal (shift d instant) = f.seasonal instant

namespace Moved

variable {d : Int} {f g : Forecast} (hm : Moved d f g) (ht : InRange (f.time.toInt + d))
  {ahead : Int64}

include hm ht

theorem pointAt (hrange : InRange (f.time.toInt + ahead.toInt))
    (hshifted : InRange (g.time.toInt + ahead.toInt)) : g.pointAt ahead = f.pointAt ahead := by
  have hmoved : InRange ((satAdd f.time ahead).toInt + d) := by
    rw [hm.time, toInt_shift ht, Int.add_right_comm] at hshifted
    rwa [satAdd, toInt_clampInt64_of_inRange hrange]
  funext total
  rw [Forecast.pointAt, Forecast.pointAt, hm.axes, hm.time, satAdd_shift ht hrange,
    f.axes.horiz_shift hmoved]
  rfl

/-- Where the seasonal window ends is found relative to the origin, so it moves along. -/
theorem toInt_anchor (hs : 0 < f.settings.season)
    (hrange : InRange (f.time.toInt - f.settings.season.toInt))
    (hshifted : InRange (g.time.toInt - g.settings.season.toInt)) (ahead : Int64) :
    (g.anchor ahead).toInt = (f.anchor ahead).toInt + d := by
  rw [Forecast.toInt_anchor hs hrange.1, Forecast.toInt_anchor (hm.settings ▸ hs) hshifted.1,
    hm.settings, hm.time, toInt_shift ht]
  omega

theorem increment (hs : 0 < f.settings.season) (hrange : ∀ t ∈ f.stepInstants ahead, InRange t)
    (hshifted : ∀ t ∈ g.stepInstants ahead, InRange t) : g.increment ahead = f.increment ahead := by
  simp only [stepInstants, List.cons_append, List.forall_mem_cons] at hrange hshifted
  obtain ⟨hback, -, hwindow, -⟩ := hrange
  obtain ⟨hback', -, hwindow', -⟩ := hshifted
  have hanchor := hm.toInt_anchor ht hs hback hback' ahead
  rw [← Forecast.toInt_anchor hs hback.1] at hwindow
  rw [← Forecast.toInt_anchor (hm.settings ▸ hs) hback'.1, hanchor, hm.settings] at hwindow'
  have hlow := (g.anchor ahead).le_toInt
  have hhigh := (g.anchor ahead).toInt_lt
  have hmoved : InRange ((f.anchor ahead).toInt + d) := ⟨by omega, by omega⟩
  have hshift : g.anchor ahead = shift d (f.anchor ahead) :=
    Int64.toInt_inj.1 (hanchor.trans (toInt_shift hmoved).symm)
  have hseasonal := hm.seasonal _ (anchor_lt_time hs hback.1 ahead) hmoved hwindow hwindow'
  rw [Forecast.increment, Forecast.increment, hm.settings, hm.trend, hshift, hseasonal]

/-- Both forecasts run alike. -/
theorem run (hs : 0 < f.settings.season) {x : Float32} (hrange : ∀ t ∈ f.instants x, InRange t)
    (hshifted : ∀ t ∈ g.instants x, InRange t) (p : Projection) :
    g.run g.settings.stepLimit x 0 p = f.run f.settings.stepLimit x 0 p := by
  rw [hm.settings]
  refine run_congr_of_offsets hm.width hm.bucketLength (fun ahead hf hg => ?_) p
  rw [← hm.settings] at hg
  have hrange : ∀ t ∈ f.stepInstants ahead, InRange t := fun t ht =>
    hrange t (List.mem_cons_of_mem _ (List.mem_flatMap.2 ⟨ahead, hf, ht⟩))
  have hshifted : ∀ t ∈ g.stepInstants ahead, InRange t := fun t ht =>
    hshifted t (List.mem_cons_of_mem _ (List.mem_flatMap.2 ⟨ahead, hg, ht⟩))
  have hincrement := hm.increment ht hs hrange hshifted
  refine ⟨hincrement, fun hfits => ?_⟩
  have hend {f : Forecast} (h : f.Fits ahead) :
      f.time.toInt + ahead.toInt ∈ f.stepInstants ahead := by simp [stepInstants, h]
  exact hm.pointAt ht (hrange _ (hend hfits))
    (hshifted _ (hend ((fits_iff_of_increment_eq hincrement).2 hfits)))

end Moved

end Forecast

section

variable {h : History} {d : Int} {now : Int64} (ho : Ordered h.toList)
  (hstart : ∀ b ∈ h.toList, InRange (b.start.toInt + d)) (hnow : InRange (now.toInt + d))

include ho hstart hnow

/-- The usage before an instant does not change when history, instant and present are moved. -/
theorem rateBefore_shift {instant : Int64} (hi : InRange (instant.toInt + d))
    (hmovable : ∀ b ∈ h.toList, b.start < instant → b.Movable d) {window : Int64}
    (hrange : InRange (instant.toInt - window.toInt))
    (hshifted : InRange (instant.toInt + d - window.toInt)) :
    ratePerBucket (h.shift d) (satSub (shift d instant) window) (shift d instant) (shift d now)
        (UsageSource.bucketLength (h.shift d)) =
      ratePerBucket h (satSub instant window) instant now (UsageSource.bucketLength h) := by
  have hs : InRange ((satSub instant window).toInt + d) := by
    rw [add_sub_right_comm] at hshifted
    rwa [satSub, toInt_clampInt64_of_inRange hrange]
  have husage := h.usage_shift ho hstart hs hi hnow hmovable
  rw [satSub_shift hi hrange, ratePerBucket]
  dsimp only [UsageSource.usage]
  rw [husage]
  rfl

theorem Forecast.moved_ofSource (axes : Axes) (width : Float32) {time : Int64}
    {settings : ForecastSettings} (ht : InRange (time.toInt + d))
    (hmovable : ∀ b ∈ h.toList, b.start < time → b.Movable d)
    (hrange : InRange (time.toInt - settings.trendWindow.toInt))
    (hshifted : InRange (time.toInt + d - settings.trendWindow.toInt)) :
    Moved d (ofSource h axes width time now settings)
      (ofSource (h.shift d) (axes.shift d) width (shift d time) (shift d now) settings) where
  axes := rfl
  width := rfl
  time := rfl
  bucketLength := rfl
  settings := rfl
  trend := by
    dsimp only [ofSource]
    exact rateBefore_shift ho hstart hnow ht hmovable hrange hshifted
  seasonal instant hlt hi hrange hshifted := by
    dsimp only [ofSource] at hlt hrange hshifted ⊢
    have hbefore : ∀ b ∈ h.toList, b.start < instant → b.Movable d := fun b hb hb' =>
      hmovable b hb (Int64.lt_trans hb' hlt)
    exact rateBefore_shift ho hstart hnow hi hbefore hrange hshifted

/-- The moved history has the same projection from the moved origin. -/
theorem Projection.ofSource_shift {axes : Axes} {viewport : Viewport} (origin : Origin)
    {settings : ForecastSettings} (ht : InRange (origin.time.toInt + d))
    (hmovable : ∀ b ∈ h.toList, b.start < origin.time → b.Movable d)
    (hrange : ∀ t ∈ (Forecast.ofSource h axes viewport.width origin.time now settings).instants
      origin.point.x, InRange t)
    (hshifted : ∀ t ∈ (Forecast.ofSource (h.shift d) (axes.shift d) viewport.width
      (shift d origin.time) (shift d now) settings).instants origin.point.x, InRange t) :
    ofSource (h.shift d) (axes.shift d) viewport { origin with time := shift d origin.time }
        (shift d now) settings =
      ofSource h axes viewport origin now settings := by
  have htrend := hrange _ List.mem_cons_self
  have htrend' := hshifted _ List.mem_cons_self
  dsimp only [Forecast.ofSource] at htrend htrend'
  rw [toInt_shift ht] at htrend'
  refine ofSource_congr_run rfl fun hvalid => ?_
  exact (Forecast.moved_ofSource ho hstart hnow axes viewport.width ht hmovable htrend
    htrend').run ht hvalid.2.2.1 hrange hshifted (start origin)

end

/-! ## Curves -/

/-- The view that is held `d` milliseconds longer. -/
def View.shift (d : Int) (view : View) : View :=
  { view with heldUntil := view.heldUntil.map (TrafficChart.shift d) }

namespace Curves

/-- The instants that are computed for the curves of a history, before any clamp: none if they are
refused, else those of the trace and of the projection. -/
def instants (h : History) (view : View) (axes : Axes) (viewport : Viewport) (now : Int64)
    (settings : ForecastSettings) : List Int :=
  match validate (some h) viewport settings with
  | .error _ => []
  | .ok () =>
    let trace := Trace.ofSource h axes viewport view.heldUntil
    (Trace.seen axes viewport.width h.toList).map Bucket.exactFinish ++
      (Forecast.ofSource h axes viewport.width trace.reached now settings).instants trace.rest.x

theorem validate_shift {h : History} (hsize : 2 ≤ h.size) (d : Int) (viewport : Viewport)
    (settings : ForecastSettings) :
    validate (some (h.shift d)) viewport settings = validate (some h) viewport settings := by
  have hsize' : 2 ≤ (h.shift d).size := by rwa [h.size_shift]
  rw [validate, validate, drawable?_history hsize, drawable?_history hsize']
  rfl

/-- The curves of the moved history, if nothing refuses them. -/
theorem draw_shift_of_validate {h : History} (hr : h.Reachable) (hsize : 2 ≤ h.size) {d : Int}
    {view : View} {axes : Axes} {viewport : Viewport} {now : Int64} {settings : ForecastSettings}
    (hcheck : validate (some h) viewport settings = .ok ())
    (hstart : ∀ b ∈ h.toList, InRange (b.start.toInt + d))
    (hheld : ∀ instant ∈ view.heldUntil, InRange (instant.toInt + d))
    (hnow : InRange (now.toInt + d))
    (hrange : ∀ t ∈ instants h view axes viewport now settings, InRange t)
    (hshifted : ∀ t ∈ instants (h.shift d) (view.shift d) (axes.shift d) viewport (shift d now)
      settings, InRange t) :
    draw (some (h.shift d)) (view.shift d) (axes.shift d) viewport (shift d now) settings =
      draw (some h) view axes viewport now settings := by
  have hsize' : 2 ≤ (h.shift d).size := by rwa [h.size_shift]
  rw [instants, hcheck, List.forall_mem_append, List.forall_mem_map] at hrange
  rw [instants, validate_shift hsize, hcheck, List.forall_mem_append, List.forall_mem_map,
    h.toList_shift] at hshifted
  have hmovable := Trace.movable_of_seen hstart hrange.1 hshifted.1
  let t := Trace.ofSource h axes viewport view.heldUntil
  have htrace : Trace.ofSource (h.shift d) (axes.shift d) viewport (view.shift d).heldUntil =
      t.shift d := Trace.ofSource_shift hsize hmovable hheld
  have ht : InRange (t.reached.toInt + d) := Trace.inRange_reached hsize hmovable
  -- A projection looks only at buckets that the trace has looked at.
  have hlooked : ∀ b ∈ h.toList, b.start < t.reached → b.Movable d := fun b hb hlt =>
    hmovable b (Trace.mem_seen_of_start_lt hsize hr.ordered hb hlt)
  rw [htrace] at hshifted
  have hprojection := Projection.ofSource_shift hr.ordered hstart hnow t.origin ht hlooked
    hrange.2 hshifted.2
  rw [draw, draw, drawable?_history hsize, drawable?_history hsize']
  dsimp only
  rw [htrace]
  exact congrArg (fun p => viewport.validate.mapError .refused >>= fun _ => p.map (ofParts t))
    hprojection

/-- A history that was moved in time has the same curves, is refused for the same reason or
overflows alike, if axes, view and present move along and all instants stay representable. -/
theorem draw_ignores_epoch {h : History} (hr : h.Reachable) (hsize : 2 ≤ h.size) (d : Int)
    (view : View) (axes : Axes) (viewport : Viewport) (now : Int64) (settings : ForecastSettings)
    (hstart : ∀ b ∈ h.toList, InRange (b.start.toInt + d))
    (hheld : ∀ instant ∈ view.heldUntil, InRange (instant.toInt + d))
    (hnow : InRange (now.toInt + d))
    (hrange : ∀ t ∈ instants h view axes viewport now settings, InRange t)
    (hshifted : ∀ t ∈ instants (h.shift d) (view.shift d) (axes.shift d) viewport (shift d now)
      settings, InRange t) :
    draw (some (h.shift d)) (view.shift d) (axes.shift d) viewport (shift d now) settings =
      draw (some h) view axes viewport now settings := by
  cases hcheck : validate (some h) viewport settings with
  | error e =>
    have hshift := (validate_shift hsize d viewport settings).trans hcheck
    rw [draw_of_refused hcheck, draw_of_refused hshift]
  | ok => exact draw_shift_of_validate hr hsize hcheck hstart hheld hnow hrange hshifted

/-- Five buckets, the oldest at the epoch, and the same ones thirty-seven milliseconds earlier,
which is no multiple of the season of twenty. An estimate of three steps follows. -/
theorem draw_of_buckets_before_epoch :
    let moved : History :=
      ⟨10, #[⟨-37, 10, 1, 0⟩, ⟨-27, 10, 2, 0⟩, ⟨-17, 10, 3, 1⟩, ⟨-7, 10, 4, 0⟩, ⟨3, 10, 5, 0⟩]⟩
    let axes : Axes := ⟨fun t => if t ≤ 20 then 0 else if t ≤ 70 then 30 else 60, fun _ => 90⟩
    let settings : ForecastSettings := ⟨20, 10, 20, 1, 1, 5⟩
    instants Trace.fiveBuckets ⟨0, 50, some 55, true⟩ axes ⟨50, 90⟩ 50 settings =
        [10, 20, 30, 40, 50, 30, 30, 40, 30, 60, 30, 30, 20, 70, 30, 40, 30, 80] ∧
      draw (some moved) ⟨0, 50, some 18, true⟩ (axes.shift (-37)) ⟨50, 90⟩ 13 settings =
        draw (some Trace.fiveBuckets) ⟨0, 50, some 55, true⟩ axes ⟨50, 90⟩ 50 settings := by
  intro moved axes settings
  have hr : History.ofBuckets 10 Trace.fiveBuckets.toList = .ok Trace.fiveBuckets := rfl
  have hheld : ∀ instant ∈ some (55 : Int64), InRange (instant.toInt + -37) := by
    rintro _ ⟨rfl⟩
    decide
  refine ⟨by decide +kernel, ?_⟩
  exact draw_ignores_epoch (.ofBuckets hr) (by decide) (-37) ⟨0, 50, some 55, true⟩ axes ⟨50, 90⟩
    50 settings (by decide) hheld (by decide) (by decide +kernel) (by decide +kernel)

end Curves

end TrafficChart

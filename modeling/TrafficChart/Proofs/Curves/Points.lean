import TrafficChart.Proofs.Curves.Plot
import TrafficChart.Proofs.Forecast.ClosedForm
import TrafficChart.Proofs.Geometry.Order
import TrafficChart.Proofs.History.Reachable
import TrafficChart.Proofs.Trace.ClosedForm

/-!
# The points of the curves

The stroke and the estimate of a history as lists of points, and the state that the trace hands
to the projection. A trace that has not begun to draw hands over where it waits, which is the
origin of the screen if already the oldest bucket ends beyond the right edge.
-/

namespace TrafficChart

namespace Trace

/-! ## Before a trace is held -/

section

variable (axes : Axes) (width : Float32) (buckets : List Bucket)

/-- The index of the first bucket that is counted, one past the bucket that a trace stops at if
none is. -/
def firstIndex : Nat :=
  (startIndex? axes width buckets).getD (stopIndex axes width buckets + 1)

/-- The index of the last bucket that does not end beyond the right edge. -/
def restIndex : Nat :=
  if width < endX axes buckets (stopIndex axes width buckets) then
    stopIndex axes width buckets - 1
  else stopIndex axes width buckets

/-- The point of that bucket, the origin if there is no such bucket. -/
def restPoint : Point :=
  if width < endX axes buckets 0 then Point.origin
  else pointAt axes buckets (firstIndex axes width buckets) (restIndex axes width buckets)

end

variable {axes : Axes} {width : Float32} {buckets : List Bucket}

theorem firstIndex_of_startIndex? {s : Nat} (hs : startIndex? axes width buckets = some s) :
    firstIndex axes width buckets = s := by
  rw [firstIndex, hs, Option.getD_some]

theorem restIndex_le : restIndex axes width buckets ≤ stopIndex axes width buckets := by
  unfold restIndex
  split <;> omega

theorem restPoint_of_beyond (hx : width < endX axes buckets 0) :
    restPoint axes width buckets = Point.origin := if_pos hx

theorem restPoint_of_not_beyond (hx : ¬ width < endX axes buckets 0) :
    restPoint axes width buckets =
      pointAt axes buckets (firstIndex axes width buckets) (restIndex axes width buckets) :=
  if_neg hx

theorem restPoint_of_startIndex? {s : Nat} (hs : startIndex? axes width buckets = some s) :
    restPoint axes width buckets = pointAt axes buckets s (restIndex axes width buckets) := by
  obtain ⟨-, ⟨hpos, hle⟩, -⟩ := startIndex?_eq_some_iff.1 hs
  rw [restPoint_of_not_beyond (not_lt_endX_of_lt_stopIndex (hpos.trans hle)),
    firstIndex_of_startIndex? hs]

theorem total_run (hne : buckets ≠ []) :
    (run axes width true blank buckets).total =
      bytesOf buckets (firstIndex axes width buckets) (stopIndex axes width buckets + 1) := by
  cases hs : startIndex? axes width buckets with
  | none =>
    rw [run_of_startIndex?_eq_none hne hs, firstIndex, hs, Option.getD_none,
      bytesOf_of_le le_rfl]
    rfl
  | some s =>
    rw [run_of_startIndex?_eq_some hne hs, firstIndex_of_startIndex? hs]
    rfl

theorem rest_run (hne : buckets ≠ []) :
    (run axes width true blank buckets).rest = restPoint axes width buckets := by
  cases hs : startIndex? axes width buckets with
  | none =>
    have hpoint : pointAt axes buckets (firstIndex axes width buckets)
        (restIndex axes width buckets) =
          ⟨endX axes buckets (restIndex axes width buckets), axes.vert 0⟩ := by
      apply pointAt_of_le
      rw [firstIndex, hs, Option.getD_none]
      exact restIndex_le.trans (Nat.le_succ _)
    rw [run_of_startIndex?_eq_none hne hs, restPoint, hpoint, restIndex]
    rcases Nat.eq_zero_or_pos (stopIndex axes width buckets) with hstop | hstop
    · -- The trace stops at the oldest bucket.
      rw [hstop]
      split <;> rfl
    · obtain ⟨n, hn⟩ := Nat.exists_eq_add_of_le' hstop
      rw [if_neg (not_lt_endX_of_lt_stopIndex hstop), hn]
      split <;> rfl
  | some s =>
    rw [run_of_startIndex?_eq_some hne hs, restPoint_of_startIndex? hs]
    rfl

theorem points_stroke_run (hne : buckets ≠ []) {s : Nat}
    (hs : startIndex? axes width buckets = some s) :
    (run axes width true blank buckets).stroke.points =
      (List.range' (s - 1) (stopIndex axes width buckets + 2 - s)).map
        (pointAt axes buckets s) := by
  obtain ⟨-, ⟨hpos, hle⟩, -⟩ := startIndex?_eq_some_iff.1 hs
  obtain ⟨n, rfl⟩ := Nat.exists_eq_add_of_le' hpos
  have hcount : stopIndex axes width buckets + 2 - (n + 1) =
      stopIndex axes width buckets + 1 - (n + 1) + 1 := by omega
  have hfirst : pointAt axes buckets (n + 1) n = ⟨endX axes buckets n, axes.vert 0⟩ :=
    pointAt_of_le n.le_succ
  rw [run_of_startIndex?_eq_some hne hs, Outline.points]
  dsimp only
  rw [drawn, toList_outline, hcount, List.range'_succ]
  simp [PenStep.point, hfirst]

/-! ## Holding and closing -/

theorem points_stroke_close_hold {t : Trace} (ht : t.drawing = true) (axes : Axes)
    (heldUntil : Option Int64) (height : Float32) :
    ((t.hold axes heldUntil).close height).stroke.points = t.stroke.points ++
      (heldLater heldUntil t.reached).toList.map fun instant =>
        ⟨axes.horiz instant, t.rest.y⟩ := by
  rw [hold_of_drawing ht]
  cases heldLater heldUntil t.reached <;> simp [close, ht]

/-! ## Traces of histories -/

section

variable {h : History} (hsize : 2 ≤ h.size) (axes : Axes) (viewport : Viewport)
  (heldUntil : Option Int64)

include hsize

theorem reached_history :
    (ofSource h axes viewport heldUntil).reached =
      h.toList[stopIndex axes viewport.width h.toList]!.finish := by
  rw [ofSource_history hsize, reached_close_hold, reached_run (History.toList_ne_nil hsize)]

theorem total_history :
    (ofSource h axes viewport heldUntil).total =
      bytesOf h.toList (firstIndex axes viewport.width h.toList)
        (stopIndex axes viewport.width h.toList + 1) := by
  rw [ofSource_history hsize, total_close_hold, total_run (History.toList_ne_nil hsize)]

theorem rest_history :
    (ofSource h axes viewport heldUntil).rest =
      ⟨((heldLater heldUntil (ofSource h axes viewport heldUntil).reached).map axes.horiz).getD
          (restPoint axes viewport.width h.toList).x,
        (restPoint axes viewport.width h.toList).y⟩ := by
  rw [ofSource_history hsize, rest_close_hold, reached_close_hold,
    rest_run (History.toList_ne_nil hsize)]

theorem stroke_history_of_none (hs : startIndex? axes viewport.width h.toList = none) :
    (ofSource h axes viewport heldUntil).stroke = ∅ := by
  rw [ofSource_history hsize, run_of_startIndex?_eq_none (History.toList_ne_nil hsize) hs,
    close_hold_of_waiting (by rfl)]
  rfl

/-- The stroke has a point for every bucket from the one before the first counted one to the one
where the trace stops, and one more if it is held. -/
theorem points_stroke_history {s : Nat}
    (hs : startIndex? axes viewport.width h.toList = some s) :
    (ofSource h axes viewport heldUntil).stroke.points =
      (List.range' (s - 1) (stopIndex axes viewport.width h.toList + 2 - s)).map
          (pointAt axes h.toList s) ++
        (heldLater heldUntil (ofSource h axes viewport heldUntil).reached).toList.map
          fun instant => ⟨axes.horiz instant, (restPoint axes viewport.width h.toList).y⟩ := by
  have hne := History.toList_ne_nil hsize
  have hdrawing : (run axes viewport.width true blank h.toList).drawing = true := by
    rw [run_of_startIndex?_eq_some hne hs]
    rfl
  rw [ofSource_history hsize, points_stroke_close_hold hdrawing, reached_close_hold,
    points_stroke_run hne hs, rest_run hne]

/-- What neighbours on the stroke satisfy: the points of neighbouring buckets do, and the last
point with the one that it is held to. -/
theorem isChain_stroke_iff {R : Point → Point → Prop} {s stop : Nat}
    (hs : startIndex? axes viewport.width h.toList = some s)
    (hstop : stopIndex axes viewport.width h.toList = stop) :
    (ofSource h axes viewport heldUntil).stroke.points.IsChain R ↔
      (∀ i, s - 1 ≤ i → i < stop →
        R (pointAt axes h.toList s i) (pointAt axes h.toList s (i + 1))) ∧
      ∀ instant ∈ heldUntil, h.toList[stop]!.finish < instant →
        R (pointAt axes h.toList s stop)
          ⟨axes.horiz instant, (restPoint axes viewport.width h.toList).y⟩ := by
  obtain ⟨-, ⟨hpos, hle⟩, -⟩ := startIndex?_eq_some_iff.1 hs
  rw [hstop] at hle
  have hcount : s - 1 + (stop + 2 - s) = stop + 1 := by omega
  have hlast : ((List.range' (s - 1) (stop + 2 - s)).map (pointAt axes h.toList s)).getLast? =
      some (pointAt axes h.toList s stop) := by
    obtain ⟨n, hn⟩ : ∃ n, stop + 2 - s = n + 1 := ⟨stop + 1 - s, by omega⟩
    have hend : s - 1 + n = stop := by omega
    rw [hn, List.range'_1_concat, hend]
    simp
  rw [points_stroke_history hsize axes viewport heldUntil hs, List.isChain_append,
    reached_history hsize, hstop, hlast, isChain_map_range', hcount]
  simp only [Nat.add_lt_add_iff_right, ← and_imp, ← mem_heldLater]
  refine and_congr Iff.rfl ?_
  cases heldLater heldUntil h.toList[stop]!.finish <;> simp

end

end Trace

/-! ## Estimates -/

theorem Forecast.points_outline_after (f : Forecast) (origin : Origin) (k : Nat) :
    (f.after origin k).outline.points = origin.point ::
      (List.range' 1 k).map fun j =>
        f.pointAt (f.aheadAt j) (f.totalAt origin.total j) := by
  rw [Outline.points, toList_outline_after, List.map_cons, List.map_map]
  refine congrArg _ (List.map_congr_left fun j hj => ?_)
  have hj : j ≠ 0 := Nat.one_le_iff_ne_zero.1 (List.mem_range'_1.1 hj).1
  simp [PenStep.point, pointAt, xAt, hj]

theorem drawable?_history {h : History} (hsize : 2 ≤ h.size) : drawable? (some h) = some h :=
  Option.filter_some_pos (decide_eq_true hsize)

namespace Curves

theorem plot_history {h : History} (hsize : 2 ≤ h.size) (view : View) (axes : Axes)
    (viewport : Viewport) (now : Int64) (settings : ForecastSettings) :
    let t := Trace.ofSource h axes viewport view.heldUntil
    plot (some h) view axes viewport now settings =
      ofParts t (Projection.plot h axes viewport.width t.origin now settings) := by
  rw [plot, drawable?_history hsize]

section

variable {h : History} (hr : h.Reachable) {viewport : Viewport} (hv : viewport.Valid)
  {settings : ForecastSettings} (hs : settings.Valid)

include hr hv hs

theorem validate_of_reachable : validate (some h) viewport settings = .ok () := by
  refine validate_of_valid ?_ hv hs
  rintro _ ⟨rfl⟩
  exact hr.bucketLength_pos

/-- Under valid settings and on a valid viewport, the curves of a history that can arise are
drawn as they are plotted, unless a mean overflows. -/
theorem draw_of_reachable {view : View} {axes : Axes} {now : Int64} {P : Curves → Prop}
    (hplot : P (plot (some h) view axes viewport now settings)) :
    (Fits (some h) view axes viewport now settings →
      ∃ c, draw (some h) view axes viewport now settings = .ok c ∧ P c) ∧
    (¬ Fits (some h) view axes viewport now settings →
      draw (some h) view axes viewport now settings = .error (.overflow .addition)) := by
  have hcheck := validate_of_reachable hr hv hs
  exact ⟨fun hfits => ⟨_, draw_of_fits hcheck hfits, hplot⟩, draw_of_not_fits hcheck⟩

theorem draw_of_weight_le (hweight : settings.weight ≤ 2 ^ 64 + 1) (view : View) (axes : Axes)
    (now : Int64) :
    draw (some h) view axes viewport now settings =
      .ok (plot (some h) view axes viewport now settings) :=
  draw_of_fits (validate_of_reachable hr hv hs) (fits_of_weight_le hweight)

end

/-- The stroke is that of the trace, and the estimate goes on from where the trace rests, unless
that is not left of the right edge. -/
theorem points_plot {h : History} (hr : h.Reachable) (hsize : 2 ≤ h.size) (view : View)
    (axes : Axes) (viewport : Viewport) (now : Int64) {settings : ForecastSettings}
    (hs : settings.Valid) :
    let t := Trace.ofSource h axes viewport view.heldUntil
    let f := Forecast.ofSource h axes viewport.width t.reached now settings
    let c := plot (some h) view axes viewport now settings
    ∃ m, c.stroke = t.stroke ∧
      c.estimate.points = t.rest ::
        (List.range' 1 m).map (fun j => f.pointAt (f.aheadAt j) (f.totalAt t.total j)) ∧
      (m ≠ 0 ↔ t.rest.x < viewport.width) := by
  intro t f c
  have hf : 0 < f.bucketLength.toInt := Int64.lt_iff_toInt_lt.1 hr.bucketLength_pos
  obtain ⟨m, -, hbefore, hlast, -, hplot⟩ :=
    Forecast.plot_start_after hf t.origin settings.stepLimit
  have hc : c = ofParts t (Projection.plot h axes viewport.width t.origin now settings) :=
    plot_history hsize ..
  rw [hc]
  refine ⟨m, rfl, ?_, ?_, ?_⟩
  · exact (congrArg (Outline.points ∘ Projection.outline) hplot).trans
      (f.points_outline_after t.origin m)
  · intro hm
    exact hbefore 0 (Nat.pos_of_ne_zero hm)
  · rintro hx rfl
    exact hlast (Nat.pos_of_ne_zero hs.2.2.2.2) hx

end Curves

end TrafficChart

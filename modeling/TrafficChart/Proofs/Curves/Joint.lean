import TrafficChart.Proofs.Curves.Points

/-!
# Where the outlines meet

The filled shape goes down, and the estimate begins, where the trace rests. That is the last point
of the stroke, unless the stroke ends with a bucket beyond the right edge and is not held from
there. Then it is the point before, the last one that still lies on the screen.
-/

namespace TrafficChart

theorem Outline.first?_eq (o : Outline) : o.first? = o.points.head? := by
  simp [first?, points, toList, List.head?_eq_getElem?]

/-! ## The end of a stroke -/

namespace Trace

/-- The trace stops at a bucket that ends beyond the right edge, and no later instant holds it
from there. -/
def Overshoots (axes : Axes) (width : Float32) (buckets : List Bucket)
    (heldUntil : Option Int64) : Prop :=
  let stop := stopIndex axes width buckets
  width < endX axes buckets stop ∧ ∀ instant ∈ heldUntil, ¬ buckets[stop]!.finish < instant

theorem heldLater_eq_none_iff {heldUntil : Option Int64} {reached : Int64} :
    heldLater heldUntil reached = none ↔ ∀ instant ∈ heldUntil, ¬ reached < instant := by
  simp [heldLater, Option.filter_eq_none_iff]

section

variable {h : History} (hsize : 2 ≤ h.size) (axes : Axes) (viewport : Viewport)
  (heldUntil : Option Int64) {s : Nat} (hs : startIndex? axes viewport.width h.toList = some s)

include hsize hs

theorem fill_history :
    (ofSource h axes viewport heldUntil).fill.toList =
      (ofSource h axes viewport heldUntil).stroke.toList ++
        [.line ⟨(ofSource h axes viewport heldUntil).rest.x, viewport.height⟩,
          .line ⟨endX axes h.toList (s - 1), viewport.height⟩] := by
  have hrun := run_of_startIndex?_eq_some (History.toList_ne_nil hsize) hs
  have hpen : (run axes viewport.width true blank h.toList).stroke.toList ≠ [] := by
    rw [hrun]
    exact List.cons_ne_nil _ _
  obtain ⟨-, -, -, -, hrest, -, hfill⟩ :=
    close_hold_of_drawing (by rw [hrun]; rfl) (fill_run rfl axes viewport.width true h.toList) hpen
      axes heldUntil viewport.height
  rw [ofSource_history hsize, hfill, hrest, hrun]
  rfl

theorem first?_stroke_history :
    (ofSource h axes viewport heldUntil).stroke.first? =
      some (pointAt axes h.toList s (s - 1)) := by
  obtain ⟨-, ⟨hpos, hle⟩, -⟩ := startIndex?_eq_some_iff.1 hs
  obtain ⟨n, hn⟩ : ∃ n, stopIndex axes viewport.width h.toList + 2 - s = n + 1 :=
    ⟨stopIndex axes viewport.width h.toList + 1 - s, by omega⟩
  rw [Outline.first?_eq, points_stroke_history hsize axes viewport heldUntil hs, hn,
    List.range'_succ]
  rfl

/-- A stroke ends with the points of the bucket it stops at and of the one before, and with the
point where it is held, if it is. -/
theorem points_stroke_end {stop : Nat}
    (hstop : stopIndex axes viewport.width h.toList = stop) :
    ∃ older, (ofSource h axes viewport heldUntil).stroke.points =
      older ++ [pointAt axes h.toList s (stop - 1), pointAt axes h.toList s stop] ++
        (heldLater heldUntil h.toList[stop]!.finish).toList.map fun instant =>
          ⟨axes.horiz instant, (restPoint axes viewport.width h.toList).y⟩ := by
  obtain ⟨-, ⟨hpos, hle⟩, -⟩ := startIndex?_eq_some_iff.1 hs
  rw [hstop] at hle
  obtain ⟨n, hn⟩ : ∃ n, stop + 2 - s = n + 1 + 1 := ⟨stop - s, by omega⟩
  have hprevious : s - 1 + n = stop - 1 := by omega
  have hlast : s - 1 + (n + 1) = stop := by omega
  refine ⟨(List.range' (s - 1) n).map (pointAt axes h.toList s), ?_⟩
  rw [points_stroke_history hsize axes viewport heldUntil hs, reached_history hsize, hstop, hn,
    List.range'_1_concat, List.range'_1_concat, hprevious, hlast]
  simp

theorem rest_of_not_held
    (hheld : heldLater heldUntil
      h.toList[stopIndex axes viewport.width h.toList]!.finish = none) :
    (ofSource h axes viewport heldUntil).rest =
      pointAt axes h.toList s (restIndex axes viewport.width h.toList) := by
  rw [rest_history hsize, reached_history hsize, hheld, restPoint_of_startIndex? hs]
  rfl

/-- The trace rests at the last point of its stroke, unless it overshoots. -/
theorem points_stroke_of_not_overshoots
    (hover : ¬ Overshoots axes viewport.width h.toList heldUntil) :
    ∃ older, (ofSource h axes viewport heldUntil).stroke.points =
      older ++ [(ofSource h axes viewport heldUntil).rest] := by
  obtain ⟨older, hpoints⟩ := points_stroke_end hsize axes viewport heldUntil hs rfl
  cases hheld : heldLater heldUntil
      h.toList[stopIndex axes viewport.width h.toList]!.finish with
  | some instant =>
    rw [hpoints, rest_history hsize, reached_history hsize, hheld]
    exact ⟨_, rfl⟩
  | none =>
    have hx : ¬ viewport.width < endX axes h.toList
        (stopIndex axes viewport.width h.toList) :=
      fun hx => hover ⟨hx, heldLater_eq_none_iff.1 hheld⟩
    rw [hpoints, rest_of_not_held hsize axes viewport heldUntil hs hheld, restIndex, if_neg hx,
      hheld]
    exact ⟨older ++ [pointAt axes h.toList s (stopIndex axes viewport.width h.toList - 1)],
      by simp⟩

/-- If it overshoots, it rests at the point before, which does not lie beyond the right edge as
the last one does. -/
theorem points_stroke_of_overshoots
    (hover : Overshoots axes viewport.width h.toList heldUntil) :
    ∃ older last, (ofSource h axes viewport heldUntil).stroke.points =
        older ++ [(ofSource h axes viewport heldUntil).rest, last] ∧
      viewport.width < last.x ∧
      ¬ viewport.width < (ofSource h axes viewport heldUntil).rest.x := by
  obtain ⟨hx, hnone⟩ := hover
  have hheld := heldLater_eq_none_iff.2 hnone
  obtain ⟨-, ⟨hpos, hle⟩, -⟩ := startIndex?_eq_some_iff.1 hs
  obtain ⟨older, hpoints⟩ := points_stroke_end hsize axes viewport heldUntil hs rfl
  have hrest : (ofSource h axes viewport heldUntil).rest =
      pointAt axes h.toList s (stopIndex axes viewport.width h.toList - 1) := by
    rw [rest_of_not_held hsize axes viewport heldUntil hs hheld, restIndex, if_pos hx]
  refine ⟨older, pointAt axes h.toList s (stopIndex axes viewport.width h.toList), ?_, hx, ?_⟩
  · rw [hpoints, hrest, hheld]
    simp
  · rw [hrest]
    exact not_lt_endX_of_lt_stopIndex (by omega)

end

end Trace

/-! ## The outlines -/

/-- A projection begins at its origin. -/
theorem Projection.first?_plot {σ : Type} [UsageSource σ] (source : σ)
    (hd : 0 < UsageSource.bucketLength source) (axes : Axes) (width : Float32) (origin : Origin)
    (now : Int64) (settings : ForecastSettings) :
    (plot source axes width origin now settings).outline.first? = some origin.point := by
  obtain ⟨m, -, -, -, -, hplot⟩ := Forecast.plot_start_after
    (f := Forecast.ofSource source axes width origin.time now settings)
    (Int64.lt_iff_toInt_lt.1 hd) origin settings.stepLimit
  rw [plot, hplot]
  rfl

namespace Curves

/-- The outlines meet at a point: the filled shape follows the stroke, goes down from there and
back to below where the stroke begins, and the estimate begins there. -/
structure MeetAt (c : Curves) (height : Float32) (p : Point) : Prop where
  fill : ∃ first ∈ c.stroke.first?,
    c.fill.toList = c.stroke.toList ++ [.line ⟨p.x, height⟩, .line ⟨first.x, height⟩]
  estimate : c.estimate.first? = some p

theorem stroke_plot {h : History} (hsize : 2 ≤ h.size) (view : View) (axes : Axes)
    (viewport : Viewport) (now : Int64) (settings : ForecastSettings) :
    (plot (some h) view axes viewport now settings).stroke =
      (Trace.ofSource h axes viewport view.heldUntil).stroke := by
  rw [plot_history hsize]
  rfl

/-- The outlines of a history that is drawn meet where the trace rests, and nowhere else. -/
theorem meetAt_plot_iff {h : History} (hd : 0 < h.bucketLength) (hsize : 2 ≤ h.size)
    (view : View) (axes : Axes) (viewport : Viewport) (now : Int64) (settings : ForecastSettings)
    {s : Nat} (hs : Trace.startIndex? axes viewport.width h.toList = some s) {p : Point} :
    (plot (some h) view axes viewport now settings).MeetAt viewport.height p ↔
      p = (Trace.ofSource h axes viewport view.heldUntil).rest := by
  let t := Trace.ofSource h axes viewport view.heldUntil
  have hstroke : t.stroke.first? = some (Trace.pointAt axes h.toList s (s - 1)) :=
    Trace.first?_stroke_history hsize axes viewport view.heldUntil hs
  have hfill := Trace.fill_history hsize axes viewport view.heldUntil hs
  have hestimate : (Projection.plot h axes viewport.width t.origin now settings).outline.first? =
      some t.rest := Projection.first?_plot h hd axes viewport.width t.origin now settings
  rw [plot_history hsize]
  constructor
  · intro hmeet
    exact Option.some.inj (hmeet.estimate.symm.trans hestimate)
  · rintro rfl
    exact { fill := ⟨_, hstroke, hfill⟩, estimate := hestimate }

/-- The outlines meet at the last point of the stroke, unless the stroke overshoots. Then they meet
at the point before. -/
theorem draw_meets {h : History} (hr : h.Reachable) (hsize : 2 ≤ h.size) (view : View)
    (axes : Axes) {viewport : Viewport} (hv : viewport.Valid) (now : Int64)
    {settings : ForecastSettings} (hs : settings.Valid) :
    let overshoots := Trace.Overshoots axes viewport.width h.toList view.heldUntil
    (Fits (some h) view axes viewport now settings →
      ∃ c, draw (some h) view axes viewport now settings = .ok c ∧
        ∀ (older : List Point) (last : Point), c.stroke.points = older ++ [last] →
          (c.MeetAt viewport.height last ↔ ¬ overshoots) ∧
          (overshoots → ∃ p ∈ older.getLast?, c.MeetAt viewport.height p)) ∧
    (¬ Fits (some h) view axes viewport now settings →
      draw (some h) view axes viewport now settings = .error (.overflow .addition)) := by
  intro overshoots
  refine draw_of_reachable hr hv hs ?_
  intro older last hpoints
  have hstroke : (plot (some h) view axes viewport now settings).stroke =
      (Trace.ofSource h axes viewport view.heldUntil).stroke := stroke_plot hsize ..
  rw [hstroke] at hpoints
  cases hstart : Trace.startIndex? axes viewport.width h.toList with
  | none =>
    rw [Trace.stroke_history_of_none hsize axes viewport view.heldUntil hstart] at hpoints
    simp [Outline.points] at hpoints
  | some s =>
    simp only [meetAt_plot_iff hr.bucketLength_pos hsize view axes viewport now settings hstart]
    by_cases hover : overshoots
    · obtain ⟨older', last', hpoints', hlast, hrest⟩ :=
        Trace.points_stroke_of_overshoots hsize axes viewport view.heldUntil hstart hover
      rw [hpoints', List.append_cons] at hpoints
      obtain ⟨rfl, hsame⟩ := List.append_inj' hpoints rfl
      obtain rfl : last' = last := List.singleton_inj.1 hsame
      refine ⟨iff_of_false ?_ (not_not_intro hover), fun _ => ⟨_, by simp, rfl⟩⟩
      intro heq
      exact hrest (heq ▸ hlast)
    · obtain ⟨older', hpoints'⟩ :=
        Trace.points_stroke_of_not_overshoots hsize axes viewport view.heldUntil hstart hover
      rw [hpoints'] at hpoints
      have hlast := List.singleton_inj.1 (List.append_inj' hpoints rfl).2
      exact ⟨iff_of_true hlast.symm hover, fun h => absurd h hover⟩

/-- Three buckets, of which the last ends beyond the right edge at 50, higher than the others. -/
theorem draw_of_last_beyond_edge :
    let h : History := ⟨10, #[⟨0, 10, 5, 0⟩, ⟨10, 10, 5, 0⟩, ⟨20, 10, 5, 0⟩]⟩
    let axes : Axes :=
      ⟨fun t => if t < 30 then 20 else 60, fun bytes => if bytes = 0 then 90 else 80⟩
    h.Reachable ∧ 2 ≤ h.size ∧ Viewport.Valid ⟨50, 100⟩ ∧
      ∃ c, draw (some h) .initial axes ⟨50, 100⟩ 30 .standard = .ok c ∧
        c.stroke.points = [⟨20, 90⟩, ⟨20, 90⟩, ⟨60, 80⟩] ∧
        c.MeetAt 100 ⟨20, 90⟩ ∧ ¬ c.MeetAt 100 ⟨60, 80⟩ := by
  intro h axes
  have hbuckets : History.ofBuckets 10 h.toList = .ok h := rfl
  have hv : Viewport.Valid ⟨50, 100⟩ := by decide
  have hsize : 2 ≤ h.size := by decide
  have hfits : Fits (some h) .initial axes ⟨50, 100⟩ 30 .standard := fits_of_weight_le (by decide)
  obtain ⟨c, hdraw, hmeet⟩ := (draw_meets (.ofBuckets hbuckets) hsize .initial axes hv 30
    ForecastSettings.standard_valid).1 hfits
  have hs : Trace.startIndex? axes 50 h.toList = some 1 := by decide
  have hstop : Trace.stopIndex axes 50 h.toList = 2 := by decide
  have hpoints : c.stroke.points = [⟨20, 90⟩, ⟨20, 90⟩, ⟨60, 80⟩] := by
    rw [(eq_plot_of_draw hdraw).2.2, stroke_plot hsize]
    refine (Trace.points_stroke_history hsize axes ⟨50, 100⟩ none hs).trans ?_
    have hfirst : Trace.pointAt axes h.toList 1 0 = ⟨20, 90⟩ :=
      congrArg₂ Point.mk (by decide) (by decide)
    have hsecond : Trace.pointAt axes h.toList 1 1 = ⟨20, 90⟩ :=
      congrArg₂ Point.mk (by decide) (by decide)
    have hthird : Trace.pointAt axes h.toList 1 2 = ⟨60, 80⟩ :=
      congrArg₂ Point.mk (by decide) (by decide)
    simp [hstop, hfirst, hsecond, hthird, List.range'_succ, Trace.heldLater]
  have hover : Trace.Overshoots axes 50 h.toList none := ⟨by decide, by simp⟩
  obtain ⟨hlast, hbefore⟩ := hmeet [⟨20, 90⟩, ⟨20, 90⟩] ⟨60, 80⟩ hpoints
  obtain ⟨p, ⟨rfl⟩, hp⟩ := hbefore hover
  exact ⟨.ofBuckets hbuckets, hsize, hv, c, hdraw, hpoints, hp, mt hlast.1 (not_not_intro hover)⟩

/-- Two buckets, of which the second ends beyond the right edge at 50. The filled shape does not go
down from there, and the estimate does not begin there. -/
theorem outlines_part_beyond_edge :
    let h : History := ⟨10, #[⟨0, 10, 5, 0⟩, ⟨10, 10, 5, 0⟩]⟩
    let axes : Axes := ⟨fun t => if t < 20 then 20 else 60, fun _ => 90⟩
    h.Reachable ∧ 2 ≤ h.size ∧ axes.horiz.Rising ∧ Viewport.Valid ⟨50, 100⟩ ∧
      ∃ c, draw (some h) .initial axes ⟨50, 100⟩ 20 .standard = .ok c ∧
        ∃ last ∈ c.stroke.points.getLast?, ¬ c.MeetAt 100 last := by
  intro h axes
  have hbuckets : History.ofBuckets 10 h.toList = .ok h := rfl
  have hsize : 2 ≤ h.size := by decide
  have hv : Viewport.Valid ⟨50, 100⟩ := by decide
  have hhoriz : axes.horiz.Rising := by
    intro s t hst
    dsimp only [axes]
    split
    · split <;> decide
    · rename_i hs
      rw [if_neg fun ht => hs (Int64.lt_of_le_of_lt hst ht)]
      decide
  have hs : Trace.startIndex? axes 50 h.toList = some 1 := by decide
  have hdraw := draw_of_weight_le (.ofBuckets hbuckets) hv ForecastSettings.standard_valid
    (by decide) .initial axes 20
  obtain ⟨older, last, hpoints, hlast, hrest⟩ :=
    Trace.points_stroke_of_overshoots hsize axes ⟨50, 100⟩ none hs ⟨by decide, by simp⟩
  refine ⟨.ofBuckets hbuckets, hsize, hhoriz, hv, _, hdraw, last, ?_, ?_⟩
  · rw [stroke_plot hsize]
    simp [View.initial, hpoints]
  · -- The trace rests on the screen, the last point of the stroke lies beyond the right edge.
    rw [meetAt_plot_iff (by decide) hsize .initial axes ⟨50, 100⟩ 20 .standard hs]
    rintro rfl
    exact hrest hlast

end Curves

end TrafficChart

import TrafficChart.Proofs.Curves.Points
import TrafficChart.Proofs.Forecast.Windows
import TrafficChart.Proofs.History.FullScan

/-!
# No look-ahead past the right edge

The curves of a history depend only on its buckets up to the first one that ends beyond the
right edge. The trace stops there, and each window of the forecast ends by the end of that
bucket, so that no later bucket meets it.
-/

namespace TrafficChart

/-! ## Histories that agree up to an edge -/

section

variable {h k : History} {e : Nat} {edge : Bucket}

theorem History.toList_take_of_agree (hagree : ∀ i ≤ e, h.buckets[i]? = k.buckets[i]?) :
    h.toList.take (e + 1) = k.toList.take (e + 1) := by
  refine List.ext_getElem? fun i => ?_
  rw [List.getElem?_take, List.getElem?_take]
  split
  · rw [getElem?_toList, getElem?_toList]
    exact hagree i (by omega)
  · rfl

/-- The usage of a window is the same in histories that agree up to the end of the window. -/
theorem History.usage_eq_of_agree (hh : Ordered h.toList) (hk : Ordered k.toList)
    (hedge : h.buckets[e]? = some edge) (hagree : ∀ i ≤ e, h.buckets[i]? = k.buckets[i]?)
    {start finish : Int64} (hf : finish ≤ edge.finish) (asOf : Int64) :
    h.usage start finish asOf = k.usage start finish asOf := by
  have kedge : k.buckets[e]? = some edge := (hagree e le_rfl).symm.trans hedge
  rw [← getElem?_toList] at hedge kedge
  refine usage_congr hh hk asOf ?_
  rw [meeting_eq_filter_take hh hedge hf, meeting_eq_filter_take hk kedge hf,
    toList_take_of_agree hagree]

variable {axes : Axes} {viewport : Viewport}

theorem Trace.ofSource_eq_of_agree (hsize : 2 ≤ h.size) (ksize : 2 ≤ k.size)
    (hedge : h.buckets[e]? = some edge) (hbeyond : viewport.width < axes.horiz edge.finish)
    (hagree : ∀ i ≤ e, h.buckets[i]? = k.buckets[i]?) (heldUntil : Option Int64) :
    ofSource h axes viewport heldUntil = ofSource k axes viewport heldUntil := by
  have kedge : k.buckets[e]? = some edge := (hagree e le_rfl).symm.trans hedge
  rw [← History.getElem?_toList] at hedge kedge
  have hrun : run axes viewport.width true blank h.toList =
      run axes viewport.width true blank k.toList := by
    rw [← run_take hedge hbeyond, ← run_take kedge hbeyond]
    exact congrArg _ (History.toList_take_of_agree hagree)
  rw [ofSource_history hsize, ofSource_history ksize, hrun]

/-- A trace has come to the end of the first bucket that ends beyond the right edge. -/
theorem Trace.reached_ofSource (hsize : 2 ≤ h.size) (hedge : h.buckets[e]? = some edge)
    (hbeyond : viewport.width < axes.horiz edge.finish)
    (hfirst : ∀ i < e, ∀ b ∈ h.buckets[i]?, ¬ viewport.width < axes.horiz b.finish)
    (heldUntil : Option Int64) : (ofSource h axes viewport heldUntil).reached = edge.finish := by
  simp only [← History.getElem?_toList] at hedge hfirst
  have hstop : stopIndex axes viewport.width h.toList = e := stopIndex_eq hedge hbeyond hfirst
  rw [reached_history hsize, hstop, List.getElem!_of_getElem? hedge]

/-- A projection from the end of a bucket is the same in histories that agree up to there. -/
theorem Projection.ofSource_eq_of_agree (hh : Ordered h.toList) (hk : Ordered k.toList)
    (hlen : h.bucketLength = k.bucketLength) (hedge : h.buckets[e]? = some edge)
    (hagree : ∀ i ≤ e, h.buckets[i]? = k.buckets[i]?) (axes : Axes) (viewport : Viewport)
    {origin : Origin} (htime : origin.time = edge.finish) {settings : ForecastSettings}
    (hseason : -9223372036854775808 ≤ edge.finish.toInt - settings.season.toInt) (now : Int64) :
    ofSource h axes viewport origin now settings = ofSource k axes viewport origin now settings :=
  ofSource_congr hlen fun hs _ _ ha =>
    History.usage_eq_of_agree hh hk hedge hagree
      (htime ▸ ha.finish_le_time hs.2.2.1 (htime ▸ hseason)) now

end

/-- Two histories that agree up to the first bucket that ends beyond the right edge have the same
curves, or are refused for the same reason, whatever buckets follow. -/
theorem Curves.draw_eq_of_agree {h k : History} (hh : h.Reachable) (hk : k.Reachable)
    (hlen : h.bucketLength = k.bucketLength) (hsize : 2 ≤ h.size) (ksize : 2 ≤ k.size)
    (view : View) (axes : Axes) (viewport : Viewport) (now : Int64) (settings : ForecastSettings)
    {e : Nat} {edge : Bucket} (hedge : h.buckets[e]? = some edge)
    (hbeyond : viewport.width < axes.horiz edge.finish)
    (hfirst : ∀ i < e, ∀ b ∈ h.buckets[i]?, ¬ viewport.width < axes.horiz b.finish)
    (hagree : ∀ i ≤ e, h.buckets[i]? = k.buckets[i]?)
    (hseason : -9223372036854775808 ≤ edge.finish.toInt - settings.season.toInt) :
    draw (some h) view axes viewport now settings =
      draw (some k) view axes viewport now settings := by
  have htrace := Trace.ofSource_eq_of_agree hsize ksize hedge hbeyond hagree view.heldUntil
  have htime : (Trace.ofSource h axes viewport view.heldUntil).origin.time = edge.finish :=
    Trace.reached_ofSource hsize hedge hbeyond hfirst view.heldUntil
  have hprojection := Projection.ofSource_eq_of_agree hh.ordered hk.ordered hlen
    hedge hagree axes viewport htime hseason now
  rw [draw, draw, drawable?_history hsize, drawable?_history ksize]
  dsimp only
  rw [← htrace, hprojection]

/-- Two histories that differ in the bucket after the edge, and in whether there is another. -/
theorem Curves.draw_of_different_tails :
    let h : History := ⟨10, #[⟨0, 10, 1, 0⟩, ⟨10, 10, 2, 0⟩, ⟨20, 10, 3, 1⟩, ⟨30, 10, 4, 0⟩]⟩
    let k : History := ⟨10, #[⟨0, 10, 1, 0⟩, ⟨10, 10, 2, 0⟩, ⟨20, 10, 3, 1⟩, ⟨35, 5, 900, 0⟩,
      ⟨40, 10, 5, 0⟩]⟩
    let axes : Axes := ⟨fun t => if t ≤ 20 then 30 else 60, fun _ => 90⟩
    let settings : ForecastSettings := ⟨20, 10, 20, 1, 1, 5⟩
    h ≠ k ∧ settings.Valid ∧ Viewport.Valid ⟨50, 90⟩ ∧
      draw (some h) .initial axes ⟨50, 90⟩ 45 settings =
        draw (some k) .initial axes ⟨50, 90⟩ 45 settings := by
  intro h k axes settings
  have hh : History.ofBuckets 10 h.toList = .ok h := rfl
  have hk : History.ofBuckets 10 k.toList = .ok k := rfl
  have hedge : h.buckets[2]? = some ⟨20, 10, 3, 1⟩ := rfl
  have hbeyond : (50 : Float32) < axes.horiz (20 + 10) := by decide
  have hfirst : ∀ i < 2, ∀ b ∈ h.buckets[i]?, ¬ (50 : Float32) < axes.horiz b.finish := by decide
  refine ⟨by decide, by decide, by decide, ?_⟩
  exact Curves.draw_eq_of_agree (.ofBuckets hh) (.ofBuckets hk) rfl (by decide) (by decide)
    .initial axes ⟨50, 90⟩ 45 settings hedge hbeyond hfirst (by decide) (by decide)

end TrafficChart

import TrafficChart.Proofs.Chart.Refused

/-!
# The scales of a chart

Whatever is done with a chart, its scales are as large as its viewport and its data scale runs from
zero to something greater. The time scale has a length as well, unless it was last set to times from
the greatest instant on: no end is later than that, so the widening of an empty interval fails.
-/

namespace TrafficChart

namespace Scale

/-! ## Intervals with a length -/

theorem low_lt_high_withBounds_iff (s : Scale) (low high : Int64) :
    (s.withBounds low high).low < (s.withBounds low high).high ↔ low ≠ Int64.maxValue := by
  have hmax : Int64.maxValue.toInt = 9223372036854775807 := rfl
  have hone : (1 : Int64).toInt = 1 := rfl
  have hlow := low.toInt_lt
  have hhigh := high.toInt_lt
  simp only [withBounds, ne_eq, ← Int64.toInt_inj, Int64.lt_iff_toInt_lt, Int64.le_iff_toInt_le,
    hmax]
  split
  · rw [toInt_satAdd, hone]
    omega
  · omega

theorem extent_pos_iff (s : Scale) : 0 < s.extent ↔ s.low < s.high := by
  have hzero : (0 : Int64).toInt = 0 := rfl
  simp only [extent, Int64.lt_iff_toInt_lt, toInt_satSub, hzero]
  omega

end Scale

namespace Chart

/-- What a host can do with a chart. -/
inductive Op (σ : Type) where
  | bind (source : σ)
  | resize (viewport : Viewport)
  | showTimes (start finish : Int64)
  | withLeastTop (leastTop : Int64)
  | onSeries (op : Series.Op σ)
  | draw (now : Int64)
  | fit (now : Int64)

variable {σ : Type}

def Op.ShowsTimes : Op σ → Prop
  | .showTimes .. => True
  | _ => False

/-- The sizes of the scales are those of the viewport, and the data scale begins at zero. Both have
a length, the time scale unless it begins at the greatest instant. -/
structure Laid (c : Chart σ) : Prop where
  time_size : c.time.size = c.viewport.width
  data_size : c.data.size = c.viewport.height
  data_low : c.data.low = 0
  data_lt : c.data.low < c.data.high
  time_lt_iff : c.time.low < c.time.high ↔ c.time.low ≠ Int64.maxValue

theorem laid_create (viewport : Viewport) : (create viewport : Chart σ).Laid where
  time_size := rfl
  data_size := rfl
  data_low := rfl
  data_lt := (Scale.low_lt_high_withBounds_iff ..).2 (by decide)
  time_lt_iff := Scale.low_lt_high_withBounds_iff ..

variable {c d : Chart σ} {op : Op σ}

/-- Only the scales and the viewport count. -/
theorem Laid.congr (h : c.Laid) (htime : d.time = c.time) (hdata : d.data = c.data)
    (hviewport : d.viewport = c.viewport) : d.Laid := by
  obtain ⟨htsize, hdsize, hlow, hlt, htlt⟩ := h
  constructor <;> simp_all

variable [UsageSource σ]

/-- The chart after one operation. A drawing that fails shows in the curves. -/
def apply (c : Chart σ) : Op σ → Chart σ
  | .bind source => c.bind source
  | .resize viewport => c.resize viewport
  | .showTimes start finish => c.showTimes start finish
  | .withLeastTop leastTop => { c with leastTop }
  | .onSeries op => { c with series := c.series.apply op }
  | .draw now => (c.draw now).1
  | .fit now => (c.fit now).1

/-- The chart after a list of operations. -/
def run (c : Chart σ) (ops : List (Op σ)) : Chart σ := ops.foldl apply c

/-! ## One operation -/

theorem Laid.apply (h : c.Laid) (op : Op σ) : (c.apply op).Laid := by
  cases op with
  | bind | withLeastTop | onSeries => exact h.congr rfl rfl rfl
  | resize viewport => exact ⟨rfl, rfl, h.data_low, h.data_lt, h.time_lt_iff⟩
  | showTimes start finish =>
    exact ⟨h.time_size, h.data_size, h.data_low, h.data_lt, Scale.low_lt_high_withBounds_iff ..⟩
  | draw now =>
    obtain ⟨curves, heq⟩ := c.exists_fst_draw_eq now
    simp only [Chart.apply, heq]
    exact h.congr rfl rfl rfl
  | fit now =>
    obtain ⟨data, curves, heq, hdata⟩ := c.exists_fst_fit_eq now
    simp only [Chart.apply, heq]
    rcases hdata with rfl | ⟨top, rfl⟩
    · exact h.congr rfl rfl rfl
    · have hlt := (c.data.low_lt_high_withBounds_iff 0 top).2 (by decide)
      exact ⟨h.time_size, h.data_size, rfl, hlt, h.time_lt_iff⟩

/-- Only showing other times changes where the time scale begins. -/
theorem low_time_apply (c : Chart σ) (h : ¬ op.ShowsTimes) :
    (c.apply op).time.low = c.time.low := by
  cases op with
  | bind | withLeastTop | onSeries | resize => rfl
  | showTimes => exact absurd trivial h
  | draw now =>
    obtain ⟨curves, heq⟩ := c.exists_fst_draw_eq now
    simp [Chart.apply, heq]
  | fit now =>
    obtain ⟨data, curves, heq, -⟩ := c.exists_fst_fit_eq now
    simp [Chart.apply, heq]

/-! ## Many operations -/

variable {ops : List (Op σ)}

/-- What a chart satisfies and each of the operations keeps, it satisfies after all of them. -/
theorem run_induction {P : Chart σ → Prop} (hc : P c)
    (hstep : ∀ d, P d → ∀ op ∈ ops, P (d.apply op)) : P (c.run ops) :=
  List.foldlRecOn ops Chart.apply hc hstep

theorem Laid.run (h : c.Laid) (ops : List (Op σ)) : (c.run ops).Laid :=
  run_induction h fun _ hd op _ => hd.apply op

theorem low_time_run (c : Chart σ) (h : ∀ op ∈ ops, ¬ op.ShowsTimes) :
    (c.run ops).time.low = c.time.low := by
  refine run_induction (P := fun d => d.time.low = c.time.low) rfl ?_
  intro d hd op hop
  rw [low_time_apply d (h op hop), hd]

/-- After any operations on a new chart the scales are as large as the viewport, and the data scale
runs from zero to something greater. The time scale has a length as well, exactly if the times shown
last do not begin at the greatest instant. -/
theorem run_keeps_scales (viewport : Viewport) (ops : List (Op σ)) :
    let c := (create viewport).run ops
    c.Laid ∧ 0 < c.data.extent ∧ (0 < c.time.extent ↔ c.time.low < c.time.high) ∧
    ((∀ op ∈ ops, ¬ op.ShowsTimes) → c.time.low < c.time.high) ∧
    ∀ older start finish newer, ops = older ++ .showTimes start finish :: newer →
      (∀ op ∈ newer, ¬ op.ShowsTimes) →
      (c.time.low < c.time.high ↔ start ≠ Int64.maxValue) := by
  intro c
  have hc : c.Laid := (laid_create viewport).run ops
  refine ⟨hc, c.data.extent_pos_iff.2 hc.data_lt, c.time.extent_pos_iff, ?_, ?_⟩
  · intro hops
    have hlow : c.time.low = 0 := low_time_run (create viewport) hops
    rw [hc.time_lt_iff, hlow]
    decide
  · rintro older start finish newer rfl hnewer
    have hsplit : c = (((create viewport).run older).showTimes start finish).run newer := by
      simp [c, run, apply]
    have hlow : c.time.low = start := by
      rw [hsplit, low_time_run _ hnewer]
      rfl
    rw [hc.time_lt_iff, hlow]

/-- An empty interval of times is widened, and the chart is drawn with a least top below zero. -/
theorem run_of_empty_times :
    let ops : List (Op History) :=
      [.bind littleHistory, .showTimes 2000 2000, .withLeastTop (-5),
        .onSeries (.showEstimate true), .fit 2000, .resize ⟨-1, 50⟩, .fit 2000]
    let c := (create ⟨300, 100⟩).run ops
    c.Laid ∧ 0 < c.data.extent ∧ 0 < c.time.extent := by
  intro ops c
  obtain ⟨hlaid, hdata, htime, -, hlast⟩ := run_keeps_scales ⟨300, 100⟩ ops
  have hnewer : ∀ op ∈ ops.drop 2, ¬ op.ShowsTimes := by simp [ops, Op.ShowsTimes]
  have hlength := (hlast [.bind littleHistory] 2000 2000 (ops.drop 2) rfl hnewer).2 (by decide)
  exact ⟨hlaid, hdata, htime.2 hlength⟩

/-- The greatest instant has no instant after it that an interval could be widened to. -/
theorem no_times_after_the_last :
    let c : Chart History :=
      (create ⟨100, 100⟩).run [.showTimes 9223372036854775807 9223372036854775807]
    ¬ c.time.low < c.time.high ∧ c.time.extent = 0 := by
  decide

end Chart

end TrafficChart

import TrafficChart.Proofs.Curves.Rightward

/-!
# Clipping at the edges of the screen

A trace decides with one comparison where to begin and with another one where to stop. On a rising
axis the buckets that end on the screen follow one another, so between the two it draws all of these
buckets, once each and in order. The only other bucket that it draws is the first one that ends
beyond the right edge.
-/

namespace TrafficChart

/-- A condition that holds from one index to before another one selects that piece of a list. -/
theorem filter_eq_drop_take {α : Type} {p : α → Bool} {l : List α} {first stop : ℕ}
    (hp : ∀ (i : ℕ) (hi : i < l.length), p l[i] ↔ first ≤ i ∧ i < stop) :
    l.filter p = (l.take stop).drop first := by
  have hnewer : (l.drop stop).filter p = [] := by
    refine List.filter_eq_nil_iff.2 fun a ha hpa => ?_
    obtain ⟨i, hi, rfl⟩ := List.mem_iff_getElem.1 ha
    rw [List.getElem_drop, hp] at hpa
    omega
  have holder : ((l.take stop).take first).filter p = [] := by
    refine List.filter_eq_nil_iff.2 fun a ha hpa => ?_
    obtain ⟨i, hi, rfl⟩ := List.mem_iff_getElem.1 ha
    rw [List.getElem_take, List.getElem_take, hp] at hpa
    simp only [List.length_take] at hi
    omega
  have hpiece : ((l.take stop).drop first).filter p = (l.take stop).drop first := by
    refine List.filter_eq_self.2 fun a ha => ?_
    obtain ⟨i, hi, rfl⟩ := List.mem_iff_getElem.1 ha
    simp only [List.length_drop, List.length_take] at hi
    rw [List.getElem_drop, List.getElem_take, hp]
    omega
  conv_lhs => rw [← List.take_append_drop stop l, List.filter_append, hnewer, List.append_nil,
    ← List.take_append_drop first (l.take stop), List.filter_append, holder, List.nil_append,
    hpiece]

namespace Trace

section

variable (axes : Axes) (width : Float32) (buckets : List Bucket)

/-- The buckets after the oldest one that end on the screen. -/
def onScreen : List Bucket :=
  buckets.tail.filter fun b => 0 < axes.horiz b.finish ∧ axes.horiz b.finish ≤ width

/-- The first bucket that ends beyond the right edge, unless it is the oldest one, with which a
trace stops before it has begun. -/
def crossing? : Option Bucket :=
  if width < endX axes buckets 0 then none
  else buckets.find? fun b => width < axes.horiz b.finish

/-- The bytes of buckets, up to the greatest byte count. -/
def totalOf : UInt64 := clampUInt64 (buckets.map (·.total.toNat)).sum

/-- The line to the end of a bucket, at the height of the buckets before it. -/
def bucketLine (older : List Bucket) (b : Bucket) : PenStep :=
  .line ⟨axes.horiz b.finish, axes.vert (axisValue (totalOf older))⟩

end

variable {axes : Axes} {width : Float32} {buckets : List Bucket}

theorem mem_onScreen {b : Bucket} :
    b ∈ onScreen axes width buckets ↔
      b ∈ buckets.tail ∧ 0 < axes.horiz b.finish ∧ axes.horiz b.finish ≤ width := by
  simp only [onScreen, List.mem_filter, decide_eq_true_iff]

theorem beyond_of_mem_crossing? {b : Bucket}
    (hb : b ∈ (crossing? axes width buckets).toList) : width < axes.horiz b.finish := by
  rw [Option.mem_toList, crossing?] at hb
  split at hb
  · cases hb
  · have hbeyond := List.find?_some hb
    exact of_decide_eq_true hbeyond

theorem map_x_bucketLine (drawn : List Bucket) :
    (drawn.mapIdx fun n b => bucketLine axes (drawn.take n) b).map (Point.x ∘ PenStep.point) =
      drawn.map fun b => axes.horiz b.finish := by
  refine List.ext_getElem (by simp) fun n _ _ => ?_
  rw [List.getElem_map, List.getElem_mapIdx, List.getElem_map]
  rfl

theorem totalOf_singleton (b : Bucket) : totalOf [b] = b.total :=
  clampUInt64_toNat b.total

theorem totalOf_append (older newer : List Bucket) :
    totalOf (older ++ newer) = satSum (totalOf older) (totalOf newer) := by
  apply UInt64.toNat_inj.1
  rw [toNat_satSum, totalOf, totalOf, totalOf, List.map_append, List.sum_append,
    toNat_clampUInt64, toNat_clampUInt64, toNat_clampUInt64]
  omega

theorem bytesOf_eq_totalOf {first i : ℕ} (hi : first ≤ i) (hlen : i ≤ buckets.length) :
    bytesOf buckets first i = totalOf ((buckets.take i).drop first) := by
  induction i, hi using Nat.le_induction with
  | base => simp [bytesOf, totalOf]
  | succ i hi ih =>
    have hpiece : (buckets.take (i + 1)).drop first =
        (buckets.take i).drop first ++ [buckets[i]] := by
      rw [List.take_succ_eq_append_getElem hlen,
        List.drop_append_of_le_length (by rw [List.length_take]; omega)]
    rw [bytesOf_succ hi, ih (by omega), hpiece, totalOf_append, totalOf_singleton,
      getElem!_pos buckets i hlen]

/-- The lines of a trace that draws a piece of the buckets. -/
theorem map_line_pointAt {first stop : ℕ} (hstop : stop ≤ buckets.length) :
    let drawn := (buckets.take stop).drop first
    (List.range' first (stop - first)).map (fun i => .line (pointAt axes buckets first i)) =
      drawn.mapIdx fun n b => bucketLine axes (drawn.take n) b := by
  intro drawn
  have hlen : drawn.length = stop - first := by
    simp only [drawn, List.length_drop, List.length_take]
    omega
  refine List.ext_getElem (by simp [hlen]) fun n hn _ => ?_
  rw [List.length_map, List.length_range'] at hn
  have hbytes : bytesOf buckets first (first + n) = totalOf (drawn.take n) := by
    rw [bytesOf_eq_totalOf (Nat.le_add_right _ _) (by omega), List.take_drop, List.take_take,
      min_eq_left (by omega)]
  have hn' : n < drawn.length := hlen ▸ hn
  have hbucket : drawn[n] = buckets[first + n]! := by
    rw [getElem!_pos buckets _ (by omega), List.getElem_drop, List.getElem_take]
  rw [List.getElem_map, List.getElem_range', List.getElem_mapIdx, hbucket, one_mul, pointAt, hbytes]
  rfl

/-! ## Which buckets are drawn -/

section

variable (hhoriz : axes.horiz.Rising) (ho : Ordered buckets)

include hhoriz ho

theorem endX_mono {i j : ℕ} (hij : i ≤ j) (hj : j < buckets.length) :
    endX axes buckets i ≤ endX axes buckets j :=
  hhoriz _ _ (finish_le_finish ho hij hj)

/-- Among the buckets after the oldest one, those on the screen are the ones from where the trace
begins to before the first one that ends beyond the right edge. -/
theorem on_screen_iff (hwidth : 0 ≤ width) {s : ℕ} (hs : startIndex? axes width buckets = some s)
    {i : ℕ} (hi : 1 ≤ i) (hlen : i < buckets.length) :
    0 < endX axes buckets i ∧ endX axes buckets i ≤ width ↔
      s ≤ i ∧ ¬ width < endX axes buckets i := by
  obtain ⟨hbegins, -, hwaits⟩ := startIndex?_eq_some_iff.1 hs
  have hnumber : endX axes buckets i ≤ endX axes buckets i := endX_mono hhoriz ho le_rfl hlen
  constructor
  · rintro ⟨hleft, hright⟩
    refine ⟨?_, fun hbeyond => Pixel.lt_irrefl _ (Pixel.lt_of_le_of_lt hright hbeyond)⟩
    by_contra hlt
    exact hwaits i hi (by omega) hleft
  · rintro ⟨hsi, hright⟩
    exact ⟨Pixel.lt_of_lt_of_le hbegins (endX_mono hhoriz ho hsi hlen),
      Pixel.le_of_not_lt hnumber (Pixel.le_refl_of_le hwidth) hright⟩

/-- From the first bucket that ends beyond the right edge on, all do. -/
theorem lt_endX_iff (hne : buckets ≠ []) {i : ℕ} (hlen : i < buckets.length) :
    width < endX axes buckets i ↔ stopIndex axes width buckets ≤ i ∧
      width < endX axes buckets (stopIndex axes width buckets) := by
  constructor
  · intro hbeyond
    have hle : stopIndex axes width buckets ≤ i := by
      by_contra hlt
      exact not_lt_endX_of_lt_stopIndex (by omega) hbeyond
    refine ⟨hle, ?_⟩
    by_contra hlast
    have hall := stopIndex_eq_of_not_lt hne hlast
    obtain rfl : i = stopIndex axes width buckets := by omega
    exact hlast hbeyond
  · rintro ⟨hle, hbeyond⟩
    exact Pixel.lt_of_lt_of_le hbeyond (endX_mono hhoriz ho hle hlen)

theorem lt_restIndex_iff (hne : buckets ≠ []) (hstop : 0 < stopIndex axes width buckets) {i : ℕ}
    (hlen : i < buckets.length) :
    i < restIndex axes width buckets + 1 ↔ ¬ width < endX axes buckets i := by
  rw [lt_endX_iff hhoriz ho hne hlen, restIndex]
  split
  · rename_i hbeyond
    rw [and_iff_left hbeyond]
    omega
  · rename_i hbeyond
    have hall := stopIndex_eq_of_not_lt hne hbeyond
    exact iff_of_true (by omega) fun h => hbeyond h.2

theorem onScreen_eq (hwidth : 0 ≤ width) (hne : buckets ≠ []) {s : ℕ}
    (hs : startIndex? axes width buckets = some s) :
    onScreen axes width buckets = (buckets.take (restIndex axes width buckets + 1)).drop s := by
  obtain ⟨-, ⟨hpos, hle⟩, -⟩ := startIndex?_eq_some_iff.1 hs
  have hpiece : onScreen axes width buckets =
      (buckets.tail.take (restIndex axes width buckets)).drop (s - 1) := by
    refine filter_eq_drop_take fun i hi => ?_
    rw [List.length_tail] at hi
    have hlen : i + 1 < buckets.length := by omega
    have hiff := on_screen_iff hhoriz ho hwidth hs (Nat.le_add_left 1 i) hlen
    rw [← lt_restIndex_iff hhoriz ho hne (hpos.trans hle) hlen, endX,
      getElem!_pos buckets _ hlen] at hiff
    rw [List.getElem_tail, decide_eq_true_iff, hiff]
    omega
  rw [hpiece, ← List.drop_one, List.take_drop, List.drop_drop,
    Nat.add_sub_cancel' hpos, Nat.add_comm 1]

/-- The first bucket that ends beyond the right edge is the one that the trace stops at, if that one
does. -/
theorem find?_beyond (hne : buckets ≠ []) :
    (buckets.find? fun b => width < axes.horiz b.finish) =
      if width < endX axes buckets (stopIndex axes width buckets) then
        some buckets[stopIndex axes width buckets]!
      else none := by
  have hlen : stopIndex axes width buckets < buckets.length := stopIndex_lt hne
  have hiff {i : ℕ} (hi : i < buckets.length) :
      width < axes.horiz buckets[i].finish ↔ width < endX axes buckets i := by
    rw [endX, getElem!_pos buckets i hi]
  split
  · rename_i hbeyond
    rw [getElem!_pos buckets _ hlen, List.find?_eq_some_iff_getElem]
    refine ⟨decide_eq_true ((hiff hlen).2 hbeyond), _, hlen, rfl, fun i hi => ?_⟩
    simpa [hiff] using not_lt_endX_of_lt_stopIndex hi
  · rename_i hbeyond
    refine List.find?_eq_none.2 fun b hb => ?_
    obtain ⟨i, hi, rfl⟩ := List.mem_iff_getElem.1 hb
    rw [decide_eq_true_iff, hiff, lt_endX_iff hhoriz ho hne hi]
    exact fun h => hbeyond h.2

theorem toList_crossing? (hne : buckets ≠ []) (hstop : 0 < stopIndex axes width buckets) :
    (crossing? axes width buckets).toList =
      (buckets.take (stopIndex axes width buckets + 1)).drop
        (restIndex axes width buckets + 1) := by
  have hlen : stopIndex axes width buckets < buckets.length := stopIndex_lt hne
  rw [crossing?, if_neg (not_lt_endX_of_lt_stopIndex hstop), find?_beyond hhoriz ho hne, restIndex]
  split
  · rw [Nat.sub_add_cancel hstop, List.take_succ_eq_append_getElem hlen,
      List.drop_append_of_le_length (by rw [List.length_take]; omega), List.drop_take_self,
      getElem!_pos buckets _ hlen]
    rfl
  · exact (List.drop_eq_nil_of_le (List.length_take_le _ _)).symm

/-- A trace draws the buckets on the screen and the one that crosses the right edge. -/
theorem drawn_eq (hwidth : 0 ≤ width) (hne : buckets ≠ []) {s : ℕ}
    (hs : startIndex? axes width buckets = some s) :
    onScreen axes width buckets ++ (crossing? axes width buckets).toList =
      (buckets.take (stopIndex axes width buckets + 1)).drop s := by
  obtain ⟨-, ⟨hpos, hle⟩, -⟩ := startIndex?_eq_some_iff.1 hs
  have hrest : s ≤ restIndex axes width buckets + 1 ∧
      restIndex axes width buckets + 1 ≤ stopIndex axes width buckets + 1 := by
    unfold restIndex
    split <;> omega
  have hlen : stopIndex axes width buckets < buckets.length := stopIndex_lt hne
  rw [onScreen_eq hhoriz ho hwidth hne hs, toList_crossing? hhoriz ho hne (hpos.trans hle)]
  conv_rhs => rw [← List.take_append_drop (restIndex axes width buckets + 1)
    (buckets.take (stopIndex axes width buckets + 1)), List.take_take, min_eq_left hrest.2,
    List.drop_append_of_le_length (by rw [List.length_take]; omega)]

/-- A trace that nothing begins has no bucket to draw. -/
theorem drawn_eq_nil (hwidth : 0 ≤ width) (hne : buckets ≠ [])
    (hs : startIndex? axes width buckets = none) :
    onScreen axes width buckets ++ (crossing? axes width buckets).toList = [] := by
  have hwaits := startIndex?_eq_none_iff.1 hs
  have hscreen : onScreen axes width buckets = [] := by
    refine List.filter_eq_nil_iff.2 fun b hb hp => ?_
    obtain ⟨i, hi, rfl⟩ := List.mem_iff_getElem.1 hb
    have hlen : i + 1 < buckets.length := by
      rw [List.length_tail] at hi
      omega
    rw [List.getElem_tail, decide_eq_true_iff, ← getElem!_pos buckets _ hlen] at hp
    obtain ⟨hleft, hright⟩ := hp
    by_cases hstop : i + 1 ≤ stopIndex axes width buckets
    · exact hwaits _ (Nat.le_add_left 1 i) hstop hleft
    · have hbeyond : width < endX axes buckets (stopIndex axes width buckets) := by
        by_contra hlast
        have hall := stopIndex_eq_of_not_lt hne hlast
        omega
      exact Pixel.lt_irrefl _ (Pixel.lt_of_le_of_lt hright
        ((lt_endX_iff hhoriz ho hne hlen).2 ⟨by omega, hbeyond⟩))
  have hcrossing : crossing? axes width buckets = none := by
    rw [crossing?, find?_beyond hhoriz ho hne]
    split
    · rfl
    · rename_i holdest
      refine if_neg fun hbeyond => ?_
      have hstop : 1 ≤ stopIndex axes width buckets := by
        by_contra hzero
        rw [Nat.lt_one_iff.1 (not_le.1 hzero)] at hbeyond
        exact holdest hbeyond
      exact hwaits _ hstop le_rfl (Pixel.lt_of_le_of_lt hwidth hbeyond)
  rw [hscreen, hcrossing]
  rfl

end

/-! ## Traces of histories -/

section

variable {h : History} (hsize : 2 ≤ h.size) (axes : Axes) (viewport : Viewport)
  (heldUntil : Option Int64)

include hsize

theorem toList_stroke_history {s : ℕ} (hs : startIndex? axes viewport.width h.toList = some s) :
    let t := ofSource h axes viewport heldUntil
    t.stroke.toList =
      .move ⟨endX axes h.toList (s - 1), axes.vert 0⟩ ::
        ((List.range' s (stopIndex axes viewport.width h.toList + 1 - s)).map fun i =>
          .line (pointAt axes h.toList s i)) ++
        (heldLater heldUntil t.reached).toList.map fun instant =>
          .line ⟨axes.horiz instant, t.rest.y⟩ := by
  have hrun := run_of_startIndex?_eq_some (History.toList_ne_nil hsize) hs
  obtain ⟨-, -, hreached, -, hrest, hstroke, -⟩ :=
    close_hold_of_drawing (t := run axes viewport.width true blank h.toList) (by rw [hrun]; rfl)
      (fill_run rfl axes viewport.width true h.toList)
      (by rw [hrun, drawn, toList_outline]; simp) axes heldUntil viewport.height
  rw [← ofSource_history hsize] at hreached hrest hstroke
  intro t
  have hy : t.rest.y = (run axes viewport.width true blank h.toList).rest.y := by rw [hrest]
  rw [hstroke, hreached, hy, hrun, drawn, toList_outline]

variable {axes viewport} (hhoriz : axes.horiz.Rising) (hwidth : 0 ≤ viewport.width)
  (ho : Ordered h.toList)

include hhoriz hwidth ho

/-- The stroke of a trace that something begins, bucket by bucket. -/
theorem toList_stroke_of_startIndex? {s : ℕ}
    (hs : startIndex? axes viewport.width h.toList = some s) :
    let t := ofSource h axes viewport heldUntil
    let drawn := onScreen axes viewport.width h.toList ++
      (crossing? axes viewport.width h.toList).toList
    t.stroke.toList =
      .move ⟨endX axes h.toList (s - 1), axes.vert 0⟩ ::
        (drawn.mapIdx fun n b => bucketLine axes (drawn.take n) b) ++
        (heldLater heldUntil t.reached).toList.map fun instant =>
          .line ⟨axes.horiz instant, t.rest.y⟩ := by
  intro t drawn
  have hne := History.toList_ne_nil hsize
  have hdrawn : drawn = _ := drawn_eq hhoriz ho hwidth hne hs
  rw [toList_stroke_history hsize axes viewport heldUntil hs, map_line_pointAt (stopIndex_lt hne),
    hdrawn]

/-- A trace counts the buckets that it draws. -/
theorem total_eq_totalOf_drawn :
    (ofSource h axes viewport heldUntil).total =
      totalOf (onScreen axes viewport.width h.toList ++
        (crossing? axes viewport.width h.toList).toList) := by
  have hne := History.toList_ne_nil hsize
  rw [total_history hsize]
  cases hs : startIndex? axes viewport.width h.toList with
  | none =>
    rw [drawn_eq_nil hhoriz ho hwidth hne hs, firstIndex, hs, Option.getD_none,
      bytesOf_of_le le_rfl]
    rfl
  | some s =>
    obtain ⟨-, ⟨-, hle⟩, -⟩ := startIndex?_eq_some_iff.1 hs
    rw [drawn_eq hhoriz ho hwidth hne hs, firstIndex_of_startIndex? hs,
      bytesOf_eq_totalOf (by omega) (stopIndex_lt hne)]

/-- Where the points of a stroke lie from left to right. -/
theorem map_x_stroke {s : ℕ} (hs : startIndex? axes viewport.width h.toList = some s) :
    let t := ofSource h axes viewport heldUntil
    let drawn := onScreen axes viewport.width h.toList ++
      (crossing? axes viewport.width h.toList).toList
    t.stroke.points.map Point.x =
      endX axes h.toList (s - 1) :: (drawn.map fun b => axes.horiz b.finish) ++
        (heldLater heldUntil t.reached).toList.map axes.horiz := by
  intro t drawn
  rw [Outline.points, toList_stroke_of_startIndex? hsize heldUntil hhoriz hwidth ho hs]
  simp only [drawn, List.map_append, List.map_cons, List.map_map, map_x_bucketLine]
  rfl

/-- Every line of a stroke ends right of the left edge. -/
theorem pos_of_mem_tail_x {s : ℕ} (hs : startIndex? axes viewport.width h.toList = some s) :
    ∀ x ∈ ((ofSource h axes viewport heldUntil).stroke.points.map Point.x).tail, 0 < x := by
  have hne := History.toList_ne_nil hsize
  obtain ⟨hbegins, ⟨-, hle⟩, -⟩ := startIndex?_eq_some_iff.1 hs
  rw [map_x_stroke hsize heldUntil hhoriz hwidth ho hs, List.cons_append, List.tail_cons]
  intro x hx
  simp only [List.map_append, List.mem_append, List.mem_map] at hx
  obtain (⟨b, hb, rfl⟩ | ⟨b, hb, rfl⟩) | ⟨instant, hinstant, rfl⟩ := hx
  · exact (mem_onScreen.1 hb).2.1
  · exact Pixel.lt_of_le_of_lt hwidth (beyond_of_mem_crossing? hb)
  · have hlater := (mem_heldLater.1 (Option.mem_toList.1 hinstant)).2
    rw [reached_history hsize axes viewport heldUntil] at hlater
    exact Pixel.lt_of_lt_of_le hbegins (Pixel.le_trans
      (endX_mono hhoriz ho hle (stopIndex_lt hne)) (hhoriz _ _ (Int64.le_of_lt hlater)))

/-- The first point of a stroke and the ends of its lines on the screen do not lie right of the
right edge. -/
theorem le_width_of_mem_take_x {s : ℕ} (hs : startIndex? axes viewport.width h.toList = some s) :
    ∀ x ∈ ((ofSource h axes viewport heldUntil).stroke.points.map Point.x).take
        ((onScreen axes viewport.width h.toList).length + 1), x ≤ viewport.width := by
  have hne := History.toList_ne_nil hsize
  obtain ⟨-, ⟨hpos, hle⟩, -⟩ := startIndex?_eq_some_iff.1 hs
  have hlast : stopIndex axes viewport.width h.toList < h.toList.length := stopIndex_lt hne
  rw [map_x_stroke hsize heldUntil hhoriz hwidth ho hs, List.cons_append, List.take_succ_cons,
    List.map_append, List.append_assoc, List.take_left' (List.length_map _)]
  intro x hx
  rw [List.mem_cons, List.mem_map] at hx
  obtain rfl | ⟨b, hb, rfl⟩ := hx
  · exact Pixel.le_of_not_lt (endX_mono hhoriz ho le_rfl (by omega)) (Pixel.le_refl_of_le hwidth)
      (not_lt_endX_of_lt_stopIndex (by omega))
  · exact (mem_onScreen.1 hb).2.2

end

/-- The trace of a history on a rising axis. After the first point, its stroke has one line for each
bucket after the oldest one that ends on the screen, in order, then one for the bucket that crosses
the right edge, and one more if it is held. Apart from its first point it stays right of the left
edge, and apart from the last two lines it does not leave the right edge. -/
theorem stroke_shows_onScreen {h : History} (hreach : h.Reachable) (hsize : 2 ≤ h.size)
    {axes : Axes} (hhoriz : axes.horiz.Rising) {viewport : Viewport} (hwidth : 0 ≤ viewport.width)
    (heldUntil : Option Int64) :
    let visible := onScreen axes viewport.width h.toList
    let crossing := (crossing? axes viewport.width h.toList).toList
    let drawn := visible ++ crossing
    let t := ofSource h axes viewport heldUntil
    let held := (heldUntil.filter fun instant => t.reached < instant).toList
    (drawn = [] → t.stroke = ∅) ∧
    (drawn ≠ [] → ∃ first, t.stroke.toList =
      .move first :: (drawn.mapIdx fun n b => bucketLine axes (drawn.take n) b) ++
        held.map fun instant => .line ⟨axes.horiz instant, t.rest.y⟩) ∧
    (∀ p ∈ t.stroke.points.tail, 0 < p.x) ∧
    (∀ p ∈ t.stroke.points.take (visible.length + 1), p.x ≤ viewport.width) ∧
    totalOf visible ≤ t.total ∧ t.total ≤ satSum (totalOf visible) (totalOf crossing) := by
  intro visible crossing drawn t held
  have ho := hreach.ordered
  have hne := History.toList_ne_nil hsize
  have htotal : t.total = satSum (totalOf visible) (totalOf crossing) := by
    rw [← totalOf_append]
    exact total_eq_totalOf_drawn hsize heldUntil hhoriz hwidth ho
  have hbytes : totalOf visible ≤ t.total ∧
      t.total ≤ satSum (totalOf visible) (totalOf crossing) :=
    ⟨htotal ▸ le_satSum _ _, htotal ▸ UInt64.le_refl _⟩
  cases hs : startIndex? axes viewport.width h.toList with
  | none =>
    have hstroke : t.stroke = ∅ := stroke_history_of_none hsize axes viewport heldUntil hs
    have hpoints : t.stroke.points = [] := by rw [hstroke]; rfl
    refine ⟨fun _ => hstroke, fun hdrawn => ?_, ?_, ?_, hbytes⟩
    · exact absurd (drawn_eq_nil hhoriz ho hwidth hne hs) hdrawn
    · simp [hpoints]
    · simp [hpoints]
  | some s =>
    refine ⟨fun hdrawn => ?_, fun _ => ?_, fun p hp => ?_, fun p hp => ?_, hbytes⟩
    · obtain ⟨-, ⟨-, hle⟩, -⟩ := startIndex?_eq_some_iff.1 hs
      have hlast : stopIndex axes viewport.width h.toList < h.toList.length := stopIndex_lt hne
      rw [show drawn = _ from drawn_eq hhoriz ho hwidth hne hs, List.drop_eq_nil_iff,
        List.length_take] at hdrawn
      omega
    · exact ⟨_, toList_stroke_of_startIndex? hsize heldUntil hhoriz hwidth ho hs⟩
    · refine pos_of_mem_tail_x hsize heldUntil hhoriz hwidth ho hs p.x ?_
      rw [← List.map_tail]
      exact List.mem_map_of_mem hp
    · refine le_width_of_mem_take_x hsize heldUntil hhoriz hwidth ho hs p.x ?_
      rw [← List.map_take]
      exact List.mem_map_of_mem hp

/-- The axis of three pixels, behind the left edge at first. -/
def sunkStairs : Axis := fun t => if t < 25 then -5 else stairs t

theorem rising_sunkStairs : sunkStairs.Rising := by
  intro s t hst
  unfold sunkStairs
  split
  · split
    · decide
    · unfold stairs
      split
      · decide
      · split <;> decide
  · rename_i hs
    rw [if_neg fun ht => hs (Int64.lt_of_le_of_lt hst ht)]
    exact rising_stairs s t hst

/-- Of seven buckets two end left of the screen, three on it at two places, and two beyond it. The
stroke has a line for the three and for the first one of the last two, and is held. -/
theorem stroke_of_seven_buckets :
    let h : History := ⟨10, #[⟨0, 10, 5, 0⟩, ⟨10, 10, 5, 0⟩, ⟨20, 10, 5, 0⟩, ⟨30, 10, 0, 5⟩,
      ⟨60, 10, 5, 0⟩, ⟨80, 10, 3, 4⟩, ⟨90, 10, 5, 0⟩]⟩
    let axes : Axes := ⟨sunkStairs, fun v => if v < 10 then 90 else 80⟩
    let viewport : Viewport := ⟨60, 90⟩
    let t := ofSource h axes viewport (some 120)
    h.Reachable ∧ 2 ≤ h.size ∧ axes.horiz.Rising ∧ 0 ≤ viewport.width ∧
      (∃ first, t.stroke.toList = [.move first, .line ⟨10, 90⟩, .line ⟨10, 90⟩, .line ⟨50, 80⟩,
        .line ⟨100, 80⟩, .line ⟨100, 80⟩]) ∧ 15 ≤ t.total ∧ t.total ≤ 22 := by
  intro h axes viewport t
  have hbuckets : History.ofBuckets 10 h.toList = .ok h := rfl
  have hsize : 2 ≤ h.size := by decide
  have hhoriz : axes.horiz.Rising := rising_sunkStairs
  have hwidth : 0 ≤ viewport.width := by decide
  obtain ⟨-, hstroke, -, -, hleast, hmost⟩ :=
    stroke_shows_onScreen (.ofBuckets hbuckets) hsize hhoriz hwidth (some 120)
  have hvisible : onScreen axes viewport.width h.toList =
      [⟨20, 10, 5, 0⟩, ⟨30, 10, 0, 5⟩, ⟨60, 10, 5, 0⟩] := by decide
  have hcrossing : (crossing? axes viewport.width h.toList).toList = [⟨80, 10, 3, 4⟩] := by decide
  rw [hvisible, hcrossing] at hstroke hmost
  rw [hvisible] at hleast
  have hrest : t.rest.y = 80 := by decide
  have hreached : t.reached = 90 := by decide
  obtain ⟨first, hsteps⟩ := hstroke (by decide)
  refine ⟨.ofBuckets hbuckets, hsize, hhoriz, hwidth, ⟨first, ?_⟩, hleast, hmost⟩
  rw [hsteps, hrest, hreached]
  rfl

end Trace

end TrafficChart

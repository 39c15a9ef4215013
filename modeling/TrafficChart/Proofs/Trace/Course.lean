import Mathlib.Algebra.BigOperators.Intervals
import Mathlib.Tactic
import TrafficChart.Trace

/-!
# The course of a trace

A trace first waits, then draws. While it waits it only moves its resting point; from the bucket
that begins the curve on it draws one line and counts one bucket at a time. Both phases have a
state in closed form after any number of buckets, and the whole run follows from one step of
each.
-/

namespace TrafficChart

namespace Trace

/-! ## Where a trace begins and ends -/

section

variable (axes : Axes) (width : Float32) (buckets : List Bucket)

/-- The pixel at which the bucket of an index ends. -/
def endX (i : Nat) : Float32 := axes.horiz buckets[i]!.finish

/-- The index of the first bucket that ends beyond the right edge, else of the last one. -/
def stopIndex : Nat :=
  min (buckets.findIdx fun b => width < axes.horiz b.finish) (buckets.length - 1)

/-- The index of the first bucket after the oldest that ends right of the left edge, unless the
trace stops before. -/
def startIndex? : Option Nat :=
  (List.range' 1 (stopIndex axes width buckets)).find? fun i => 0 < endX axes buckets i

/-- The bytes of the buckets from index `first` to before index `i`. -/
def bytesOf (first i : Nat) : UInt64 :=
  clampUInt64 (∑ j ∈ Finset.Ico first i, buckets[j]!.total.toNat)

/-- The point of the bucket at index `i` on a curve that begins with the bucket `first`. -/
def pointAt (first i : Nat) : Point :=
  ⟨endX axes buckets i, axes.vert (axisValue (bytesOf buckets first i))⟩

end

variable {axes : Axes} {width : Float32} {buckets : List Bucket}

theorem stopIndex_lt (hne : buckets ≠ []) : stopIndex axes width buckets < buckets.length := by
  have := List.length_pos_iff.2 hne
  unfold stopIndex
  omega

theorem not_lt_endX_of_lt_stopIndex {i : Nat} (hi : i < stopIndex axes width buckets) :
    ¬ width < endX axes buckets i := by
  have hfind : i < buckets.findIdx fun b => width < axes.horiz b.finish := by
    unfold stopIndex at hi
    omega
  have hlen := hfind.trans_le List.findIdx_le_length
  rw [endX, getElem!_pos buckets i hlen]
  simpa using List.not_of_lt_findIdx hfind

/-- A trace stops at the first bucket that ends beyond the right edge. -/
theorem stopIndex_eq {e : Nat} {b : Bucket} (hb : buckets[e]? = some b)
    (hx : width < axes.horiz b.finish)
    (hfirst : ∀ i < e, ∀ c ∈ buckets[i]?, ¬ width < axes.horiz c.finish) :
    stopIndex axes width buckets = e := by
  obtain ⟨he, rfl⟩ := List.getElem?_eq_some_iff.1 hb
  have hfind : (buckets.findIdx fun b => width < axes.horiz b.finish) = e :=
    (List.findIdx_eq he).2 ⟨by simpa using hx, fun i hi => by
      simpa using hfirst i hi _ (List.getElem?_eq_getElem (by omega))⟩
  rw [stopIndex, hfind]
  omega

/-- A trace that stops short of the right edge has looked at all buckets. -/
theorem stopIndex_eq_of_not_lt (hne : buckets ≠ [])
    (hx : ¬ width < endX axes buckets (stopIndex axes width buckets)) :
    stopIndex axes width buckets + 1 = buckets.length := by
  have hpos := List.length_pos_iff.2 hne
  by_contra hlast
  have hstop : stopIndex axes width buckets =
      buckets.findIdx fun b => width < axes.horiz b.finish := by
    unfold stopIndex at hlast ⊢
    omega
  have hlen : stopIndex axes width buckets < buckets.length := stopIndex_lt hne
  rw [hstop] at hlen hx
  rw [endX, getElem!_pos buckets _ hlen] at hx
  exact hx (of_decide_eq_true (List.findIdx_getElem (w := hlen)))

theorem startIndex?_eq_some_iff {s : Nat} :
    startIndex? axes width buckets = some s ↔
      0 < endX axes buckets s ∧ (1 ≤ s ∧ s ≤ stopIndex axes width buckets) ∧
        ∀ i, 1 ≤ i → i < s → ¬ 0 < endX axes buckets i := by
  simp [startIndex?, List.find?_range'_eq_some, List.mem_range'_1, Nat.lt_one_add_iff]

theorem startIndex?_eq_none_iff :
    startIndex? axes width buckets = none ↔
      ∀ i, 1 ≤ i → i ≤ stopIndex axes width buckets → ¬ 0 < endX axes buckets i := by
  simp [startIndex?, Nat.lt_one_add_iff]

theorem bytesOf_of_le {first i : Nat} (h : i ≤ first) : bytesOf buckets first i = 0 := by
  rw [bytesOf, Finset.Ico_eq_empty_of_le h, Finset.sum_empty]
  rfl

theorem bytesOf_mono {first i j : Nat} (h : i ≤ j) :
    bytesOf buckets first i ≤ bytesOf buckets first j :=
  clampUInt64_mono (Finset.sum_le_sum_of_subset (Finset.Ico_subset_Ico_right h))

theorem bytesOf_succ {first i : Nat} (h : first ≤ i) :
    bytesOf buckets first (i + 1) = satSum (bytesOf buckets first i) buckets[i]!.total := by
  rw [bytesOf, bytesOf, Finset.sum_Ico_succ_top h, satSum_clampUInt64]

theorem pointAt_of_le {first i : Nat} (h : i ≤ first) :
    pointAt axes buckets first i = ⟨endX axes buckets i, axes.vert 0⟩ := by
  have hzero : axisValue 0 = 0 := rfl
  rw [pointAt, bytesOf_of_le h, hzero]

/-! ## One bucket -/

@[simp] theorem drawing_start (t : Trace) : t.start.drawing = true := rfl

theorem pointOf_start (axes : Axes) (t : Trace) (b : Bucket) :
    pointOf axes t.start b = pointOf axes t b := rfl

theorem visit_of_drawing {t : Trace} (ht : t.drawing = true) (axes : Axes) (oldest : Bool)
    (b : Bucket) :
    visit axes oldest t b =
      { t with
        stroke := t.stroke.lineTo (pointOf axes t b)
        fill := t.fill.lineTo (pointOf axes t b)
        total := satSum t.total b.total
        reached := b.finish } := by
  simp [visit, draw, count, ht]

/-- A trace goes on waiting at the oldest bucket and left of the left edge. -/
theorem visit_of_waiting {t : Trace} (ht : t.drawing = false) {axes : Axes} {oldest : Bool}
    {b : Bucket} (h : oldest = true ∨ ¬ 0 < axes.horiz b.finish) :
    visit axes oldest t b = { t with reached := b.finish } := by
  rcases h with rfl | hx
  · simp [visit, draw, count, ht]
  · simp [visit, draw, count, ht, pointOf, hx]

/-- The first bucket right of the left edge is the first one that is drawn. -/
theorem visit_of_begins {t : Trace} (ht : t.drawing = false) {axes : Axes} {b : Bucket}
    (hx : 0 < axes.horiz b.finish) : visit axes false t b = visit axes false t.start b := by
  rw [visit_of_drawing t.drawing_start]
  simp [visit, draw, count, start, pointOf, ht, hx]

/-- Looking at a bucket does not move the resting point. -/
theorem rest_visit (axes : Axes) (oldest : Bool) (t : Trace) (b : Bucket) :
    (visit axes oldest t b).rest = t.rest := by
  have hrest (t : Trace) (p : Point) : ((t.draw p).count b).rest = t.rest := by
    by_cases ht : t.drawing <;> simp [draw, count, ht]
  rw [visit, hrest]
  split <;> rfl

/-- Where both outlines agree, looking at a bucket draws the same line in both. -/
theorem fill_visit {t : Trace} (h : t.fill = t.stroke) (axes : Axes) (oldest : Bool) (b : Bucket) :
    (visit axes oldest t b).fill = (visit axes oldest t b).stroke := by
  have hcount (t : Trace) (p : Point) (h : t.fill = t.stroke) :
      ((t.draw p).count b).fill = ((t.draw p).count b).stroke := by
    by_cases ht : t.drawing <;> simp [draw, count, ht, h]
  unfold visit
  refine hcount _ _ ?_
  split
  · exact congrArg (Outline.moveTo · t.rest) h
  · exact h

theorem reached_visit (axes : Axes) (oldest : Bool) (t : Trace) (b : Bucket) :
    (visit axes oldest t b).reached = b.finish := by
  simp only [visit, draw, count, start]
  split <;> split <;> rfl

/-- Looking at a bucket counts its bytes at most. -/
theorem total_visit_le (axes : Axes) (oldest : Bool) (t : Trace) (b : Bucket) :
    (visit axes oldest t b).total.toNat ≤ t.total.toNat + b.total.toNat := by
  have hcount (t : Trace) (p : Point) :
      ((t.draw p).count b).total.toNat ≤ t.total.toNat + b.total.toNat := by
    by_cases ht : t.drawing <;> simp [draw, count, ht, toNat_satSum]
  unfold visit
  refine (hcount _ _).trans ?_
  split <;> rfl

theorem run_of_begins {t : Trace} (ht : t.drawing = false) {axes : Axes} {b : Bucket}
    (hx : 0 < axes.horiz b.finish) (newer : List Bucket) :
    run axes width false t (b :: newer) = run axes width false t.start (b :: newer) := by
  rw [run, run, visit_of_begins ht hx, pointOf_start]

/-- Looks at a bucket that does not end beyond the right edge. -/
def pass (axes : Axes) (oldest : Bool) (t : Trace) (b : Bucket) : Trace :=
  { visit axes oldest t b with rest := pointOf axes t b }

theorem run_drop {n : Nat} (hn : n < buckets.length) (oldest : Bool) (t : Trace) :
    run axes width oldest t (buckets.drop n) =
      if width < endX axes buckets n then visit axes oldest t buckets[n]!
      else run axes width false (pass axes oldest t buckets[n]!) (buckets.drop (n + 1)) := by
  rw [List.drop_eq_getElem_cons hn, run, endX, getElem!_pos buckets n hn]
  rfl

/-! ## The two phases -/

section

variable (axes buckets)

/-- The trace after a number of buckets, as long as it waits. -/
def waiting : Nat → Trace
  | 0 => blank
  | n + 1 =>
    { blank with
      rest := ⟨endX axes buckets n, axes.vert 0⟩
      reached := buckets[n]!.finish }

/-- The outline before the bucket `n`, drawn from the bucket `s` on. -/
def outline (s n : Nat) : Outline :=
  ⟨(.move (pointAt axes buckets s (s - 1)) ::
    (List.range' s (n - s)).map fun i => .line (pointAt axes buckets s i)).toArray⟩

/-- The trace before the bucket `n`, as it draws from the bucket `s` on. -/
def drawn (s n : Nat) : Trace where
  stroke := outline axes buckets s n
  fill := outline axes buckets s n
  total := bytesOf buckets s n
  beginX := endX axes buckets (s - 1)
  rest := pointAt axes buckets s (n - 1)
  reached := buckets[n - 1]!.finish
  drawing := true

end

theorem drawing_waiting (n : Nat) : (waiting axes buckets n).drawing = false := by
  cases n <;> rfl

theorem start_waiting {s : Nat} (hs : 1 ≤ s) :
    (waiting axes buckets s).start = drawn axes buckets s s := by
  obtain ⟨n, rfl⟩ : ∃ n, s = n + 1 := ⟨s - 1, by omega⟩
  have hrest : pointAt axes buckets (n + 1) n = ⟨endX axes buckets n, axes.vert 0⟩ :=
    pointAt_of_le (Nat.le_succ n)
  have htotal : bytesOf buckets (n + 1) (n + 1) = 0 := bytesOf_of_le le_rfl
  rw [drawn, outline, Nat.sub_self, Nat.add_sub_cancel, hrest, htotal]
  rfl

theorem pass_waiting {n : Nat} (h : 1 ≤ n → ¬ 0 < endX axes buckets n) :
    pass axes (n == 0) (waiting axes buckets n) buckets[n]! = waiting axes buckets (n + 1) := by
  have hwaits : (n == 0) = true ∨ ¬ 0 < axes.horiz buckets[n]!.finish := by
    rcases Nat.eq_zero_or_pos n with rfl | hn
    · exact .inl rfl
    · exact .inr (h hn)
  rw [pass, visit_of_waiting (drawing_waiting n) hwaits]
  cases n <;> rfl

theorem toList_outline (s n : Nat) :
    (outline axes buckets s n).toList =
      .move ⟨endX axes buckets (s - 1), axes.vert 0⟩ ::
        (List.range' s (n - s)).map fun i => .line (pointAt axes buckets s i) := by
  rw [← pointAt_of_le (Nat.sub_le s 1)]
  rfl

theorem pass_drawn {s n : Nat} (hn : s ≤ n) (oldest : Bool) :
    pass axes oldest (drawn axes buckets s n) buckets[n]! = drawn axes buckets s (n + 1) := by
  have hpoint : pointOf axes (drawn axes buckets s n) buckets[n]! = pointAt axes buckets s n := rfl
  have hline : (outline axes buckets s n).lineTo (pointAt axes buckets s n) =
      outline axes buckets s (n + 1) := by
    apply Outline.ext_toList
    rw [Outline.toList_lineTo_of_ne (by simp [toList_outline]), toList_outline, toList_outline,
      Nat.succ_sub hn, List.range'_1_concat, Nat.add_sub_cancel' hn]
    simp
  rw [pass, visit_of_drawing rfl, hpoint]
  simp [drawn, hline, bytesOf_succ hn]

/-! ## The whole run -/

/-- A family of states that one bucket leads through is what the run leads through, up to the
bucket it stops at. -/
theorem run_of_steps (phase : Nat → Trace) (hne : buckets ≠ []) {n k : Nat} (hnk : n ≤ k)
    (hk : k ≤ stopIndex axes width buckets)
    (hstep : ∀ i, n ≤ i → i < k →
      pass axes (i == 0) (phase i) buckets[i]! = phase (i + 1)) :
    run axes width (n == 0) (phase n) (buckets.drop n) =
      run axes width (k == 0) (phase k) (buckets.drop k) := by
  induction k, hnk using Nat.le_induction with
  | base => rfl
  | succ k hnk ih =>
    have hlen : k < buckets.length := (Nat.lt_of_succ_le hk).trans (stopIndex_lt hne)
    rw [ih (by omega) fun i hi hik => hstep i hi (by omega), run_drop hlen,
      if_neg (not_lt_endX_of_lt_stopIndex (by omega)), hstep k hnk (by omega)]
    rfl

/-- A phase that lasts to the end. The bucket that a trace stops at is looked at like the others,
but it does not move the resting point if it ends beyond the right edge. -/
theorem run_of_phase (phase : Nat → Trace) (hne : buckets ≠ []) {n : Nat}
    (hn : n ≤ stopIndex axes width buckets)
    (hstep : ∀ i, n ≤ i → i ≤ stopIndex axes width buckets →
      pass axes (i == 0) (phase i) buckets[i]! = phase (i + 1)) :
    run axes width (n == 0) (phase n) (buckets.drop n) =
      { phase (stopIndex axes width buckets + 1) with
        rest :=
          if width < endX axes buckets (stopIndex axes width buckets) then
            (phase (stopIndex axes width buckets)).rest
          else (phase (stopIndex axes width buckets + 1)).rest } := by
  rw [run_of_steps phase hne hn le_rfl fun i hi hik => hstep i hi hik.le,
    run_drop (stopIndex_lt hne), ← hstep _ hn le_rfl]
  split
  · rw [← rest_visit axes]
    rfl
  · rename_i hx
    rw [stopIndex_eq_of_not_lt hne hx, List.drop_length]
    rfl

/-- A trace that nothing begins waits to the end. -/
theorem run_of_startIndex?_eq_none (hne : buckets ≠ [])
    (hs : startIndex? axes width buckets = none) :
    run axes width true blank buckets =
      { waiting axes buckets (stopIndex axes width buckets + 1) with
        rest :=
          if width < endX axes buckets (stopIndex axes width buckets) then
            (waiting axes buckets (stopIndex axes width buckets)).rest
          else (waiting axes buckets (stopIndex axes width buckets + 1)).rest } := by
  refine run_of_phase (waiting axes buckets) (n := 0) hne (Nat.zero_le _) fun i _ hi => ?_
  exact pass_waiting fun h => startIndex?_eq_none_iff.1 hs i h hi

/-- A trace draws from the bucket that begins the curve to the one it stops at. -/
theorem run_of_startIndex?_eq_some (hne : buckets ≠ []) {s : Nat}
    (hs : startIndex? axes width buckets = some s) :
    run axes width true blank buckets =
      { drawn axes buckets s (stopIndex axes width buckets + 1) with
        rest := pointAt axes buckets s
          (if width < endX axes buckets (stopIndex axes width buckets) then
            stopIndex axes width buckets - 1
          else stopIndex axes width buckets) } := by
  obtain ⟨hx, ⟨hpos, hle⟩, hfirst⟩ := startIndex?_eq_some_iff.1 hs
  have hwait := run_of_steps (waiting axes buckets) hne (Nat.zero_le s) hle
    fun i _ hi => pass_waiting fun h => hfirst i h hi
  have hlen : s < buckets.length := hle.trans_lt (stopIndex_lt hne)
  -- At the bucket `s` the waiting trace and the one that has just set its pen down agree, since
  -- the latter begins at the resting point of the former.
  have hbegin : run axes width (s == 0) (waiting axes buckets s) (buckets.drop s) =
      run axes width (s == 0) (drawn axes buckets s s) (buckets.drop s) := by
    have hnz : (s == 0) = false := by simpa using Nat.one_le_iff_ne_zero.1 hpos
    rw [endX, getElem!_pos buckets s hlen] at hx
    rw [List.drop_eq_getElem_cons hlen, hnz, run_of_begins (drawing_waiting s) hx,
      start_waiting hpos]
  refine hwait.trans (hbegin.trans
    ((run_of_phase (drawn axes buckets s) hne hle fun i hi _ => pass_drawn hi _).trans ?_))
  rw [apply_ite (pointAt axes buckets s)]
  rfl

/-- A trace has come to the end of the bucket it stops at. -/
theorem reached_run (hne : buckets ≠ []) :
    (run axes width true blank buckets).reached =
      buckets[stopIndex axes width buckets]!.finish := by
  cases hs : startIndex? axes width buckets with
  | none => rw [run_of_startIndex?_eq_none hne hs]; rfl
  | some s => rw [run_of_startIndex?_eq_some hne hs]; rfl

/-- A run counts no more than there is. -/
theorem total_run_le (axes : Axes) (width : Float32) (oldest : Bool) (t : Trace)
    (buckets : List Bucket) :
    (run axes width oldest t buckets).total.toNat ≤
      t.total.toNat + (buckets.map (·.total.toNat)).sum := by
  induction buckets generalizing oldest t with
  | nil => exact Nat.le_add_right _ _
  | cons b newer ih =>
    have hvisit := total_visit_le axes oldest t b
    rw [run, List.map_cons, List.sum_cons]
    split
    · omega
    · have hnewer :=
        ih false { visit axes oldest t b with rest := pointOf axes t b }
      dsimp only at hnewer
      omega

/-- As long as a trace runs, the filled shape is the curve. -/
theorem fill_run {t : Trace} (h : t.fill = t.stroke) (axes : Axes) (width : Float32)
    (oldest : Bool) (buckets : List Bucket) :
    (run axes width oldest t buckets).fill = (run axes width oldest t buckets).stroke := by
  induction buckets generalizing oldest t with
  | nil => exact h
  | cons b newer ih =>
    rw [run]
    split
    · exact fill_visit h axes oldest b
    · exact ih (t := { visit axes oldest t b with rest := pointOf axes t b })
        (fill_visit h axes oldest b) false

/-- A run does not look at buckets after one that ends beyond the right edge. -/
theorem run_take {n : Nat} {b : Bucket} (hb : buckets[n]? = some b)
    (hx : width < axes.horiz b.finish) (oldest : Bool) (t : Trace) :
    run axes width oldest t (buckets.take (n + 1)) = run axes width oldest t buckets := by
  induction buckets generalizing n oldest t with
  | nil => simp at hb
  | cons c newer ih =>
    cases n with
    | zero =>
      obtain rfl : c = b := by simpa using hb
      simp [run, pointOf, hx]
    | succ n => simp only [List.take_succ_cons, run, ih (by simpa using hb)]

end Trace

end TrafficChart

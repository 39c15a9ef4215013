import TrafficChart.Proofs.History.Shift
import TrafficChart.Proofs.Trace.ClosedForm

/-!
# Traces moved in time

On axes that are moved along, a history that was moved in time has the same trace, but for the
instant that the trace has come to.
-/

namespace TrafficChart

/-- Axes on which an instant lies where the one `d` milliseconds earlier lay. -/
def Axes.shift (d : Int) (axes : Axes) : Axes :=
  { axes with horiz := fun t => axes.horiz (TrafficChart.shift (-d) t) }

theorem Axes.horiz_shift (axes : Axes) {d : Int} {t : Int64} (h : InRange (t.toInt + d)) :
    (axes.shift d).horiz (TrafficChart.shift d t) = axes.horiz t :=
  congrArg axes.horiz (shift_neg_shift h)

namespace Trace

/-- The buckets that a trace looks at, up to the first one that ends beyond the right edge. -/
def seen (axes : Axes) (width : Float32) : List Bucket → List Bucket
  | [] => []
  | b :: newer => b :: if width < axes.horiz b.finish then [] else seen axes width newer

/-- The trace that has come `d` milliseconds further. -/
def shift (d : Int) (t : Trace) : Trace := { t with reached := TrafficChart.shift d t.reached }

variable {axes : Axes} {width : Float32} {buckets : List Bucket} {d : Int} {t : Trace} {b : Bucket}

theorem run_cons (axes : Axes) (width : Float32) (oldest : Bool) (t : Trace) (b : Bucket)
    (newer : List Bucket) :
    run axes width oldest t (b :: newer) =
      if width < axes.horiz b.finish then visit axes oldest t b
      else run axes width false (pass axes oldest t b) newer :=
  rfl

/-! ## The buckets that are looked at -/

theorem seen_prefix (axes : Axes) (width : Float32) (buckets : List Bucket) :
    seen axes width buckets <+: buckets := by
  induction buckets with
  | nil => exact List.prefix_rfl
  | cons b newer ih =>
    rw [seen, List.prefix_cons_inj]
    split
    · exact List.nil_prefix
    · exact ih

/-- A trace has come to the end of the last bucket that it has looked at. -/
theorem reached_run_seen (axes : Axes) (width : Float32) (oldest : Bool) (t : Trace)
    (buckets : List Bucket) :
    (run axes width oldest t buckets).reached =
      ((seen axes width buckets).getLast?.map Bucket.finish).getD t.reached := by
  induction buckets generalizing oldest t with
  | nil => rfl
  | cons b newer ih =>
    rw [run_cons, seen, List.getLast?_cons]
    split
    · exact reached_visit axes oldest t b
    · have hpass : (pass axes oldest t b).reached = b.finish := reached_visit axes oldest t b
      rw [ih, hpass]
      cases (seen axes width newer).getLast? <;> rfl

/-- The end of the last bucket that is looked at, if there is any. -/
theorem exists_reached_run (hne : buckets ≠ []) (oldest : Bool) (t : Trace) :
    ∃ last ∈ seen axes width buckets,
      (run axes width oldest t buckets).reached = last.finish := by
  rw [reached_run_seen]
  cases hlast : (seen axes width buckets).getLast? with
  | some last => exact ⟨last, List.mem_of_getLast? hlast, rfl⟩
  | none =>
    cases buckets with
    | nil => exact absurd rfl hne
    | cons b newer => simp [seen] at hlast

theorem horiz_finish_shift (hb : b.Movable d) (axes : Axes) :
    (axes.shift d).horiz (b.shift d).finish = axes.horiz b.finish := by
  rw [hb.finish_shift, axes.horiz_shift hb.inRange_finish]

/-- Of the moved buckets the same ones are looked at, so both ends of each are representable. -/
theorem movable_of_seen (hstart : ∀ b ∈ buckets, InRange (b.start.toInt + d))
    (hrange : ∀ b ∈ seen axes width buckets, InRange b.exactFinish)
    (hshifted : ∀ b ∈ seen (axes.shift d) width (buckets.map (Bucket.shift d)),
      InRange b.exactFinish) :
    ∀ b ∈ seen axes width buckets, b.Movable d := by
  induction buckets with
  | nil => nofun
  | cons b newer ih =>
    obtain ⟨hb, hnewer⟩ := List.forall_mem_cons.1 hstart
    rw [seen, List.forall_mem_cons] at hrange ⊢
    rw [List.map_cons, seen, List.forall_mem_cons, Bucket.exactFinish_shift hb] at hshifted
    have hmovable : b.Movable d := ⟨hb, hrange.1, hshifted.1⟩
    rw [horiz_finish_shift hmovable] at hshifted
    refine ⟨hmovable, ?_⟩
    by_cases hx : width < axes.horiz b.finish
    · rw [if_pos hx]
      nofun
    · rw [if_neg hx] at hrange hshifted ⊢
      exact ih hnewer hrange.2 hshifted.2

/-! ## The moved trace -/

theorem draw_shift (d : Int) (t : Trace) (p : Point) :
    (t.shift d).draw p = (t.draw p).shift d := by
  rw [draw, draw, apply_ite (shift d)]
  rfl

theorem count_shift (d : Int) (t : Trace) (b : Bucket) :
    (t.shift d).count (b.shift d) = (t.count b).shift d := by
  rw [count, count, apply_ite (shift d)]
  rfl

theorem pointOf_shift (hb : b.Movable d) (axes : Axes) (t : Trace) :
    pointOf (axes.shift d) (t.shift d) (b.shift d) = pointOf axes t b :=
  congrArg (Point.mk · _) (horiz_finish_shift hb axes)

theorem visit_shift (hb : b.Movable d) (axes : Axes) (oldest : Bool) (t : Trace) :
    visit (axes.shift d) oldest (t.shift d) (b.shift d) = (visit axes oldest t b).shift d := by
  have hreached : { t.shift d with reached := (b.shift d).finish } =
      { t with reached := b.finish }.shift d := by
    rw [hb.finish_shift]
    rfl
  rw [visit, visit, pointOf_shift hb, hreached]
  dsimp only
  rw [← count_shift, ← draw_shift, apply_ite (shift d)]
  rfl

theorem pass_shift (hb : b.Movable d) (axes : Axes) (oldest : Bool) (t : Trace) :
    pass (axes.shift d) oldest (t.shift d) (b.shift d) = (pass axes oldest t b).shift d := by
  rw [pass, visit_shift hb, pointOf_shift hb]
  rfl

theorem run_shift (hmovable : ∀ b ∈ seen axes width buckets, b.Movable d) (oldest : Bool)
    (t : Trace) :
    run (axes.shift d) width oldest (t.shift d) (buckets.map (Bucket.shift d)) =
      (run axes width oldest t buckets).shift d := by
  induction buckets generalizing oldest t with
  | nil => rfl
  | cons b newer ih =>
    rw [seen, List.forall_mem_cons] at hmovable
    obtain ⟨hb, hnewer⟩ := hmovable
    rw [List.map_cons, run_cons, run_cons, horiz_finish_shift hb, visit_shift hb, pass_shift hb]
    split
    · rfl
    · rename_i hx
      rw [if_neg hx] at hnewer
      exact ih hnewer false _

theorem hold_shift {heldUntil : Option Int64} (hr : InRange (t.reached.toInt + d))
    (hheld : ∀ instant ∈ heldUntil, InRange (instant.toInt + d)) (axes : Axes) :
    (t.shift d).hold (axes.shift d) (heldUntil.map (TrafficChart.shift d)) =
      (t.hold axes heldUntil).shift d := by
  cases heldUntil with
  | none => rfl
  | some instant =>
    have hi := hheld instant rfl
    have hlater : (t.shift d).reached < TrafficChart.shift d instant ↔ t.reached < instant :=
      shift_lt_shift_iff hr hi
    rw [Option.map_some, hold, hold, axes.horiz_shift hi]
    simp only [hlater]
    split
    · exact draw_shift d { t with rest := ⟨axes.horiz instant, t.rest.y⟩ } _
    · rfl

theorem close_shift (d : Int) (t : Trace) (height : Float32) :
    (t.shift d).close height = (t.close height).shift d := by
  rw [close, close, apply_ite (shift d)]
  rfl

theorem inRange_reached_run (hne : buckets ≠ [])
    (hmovable : ∀ b ∈ seen axes width buckets, b.Movable d) (oldest : Bool) (t : Trace) :
    InRange ((run axes width oldest t buckets).reached.toInt + d) := by
  obtain ⟨last, hlast, hreached⟩ := exists_reached_run hne oldest t
  rw [hreached]
  exact (hmovable last hlast).inRange_finish

/-! ## Traces of histories -/

section

variable {h : History} (hsize : 2 ≤ h.size) {viewport : Viewport} {heldUntil : Option Int64}

include hsize

theorem reached_ofSource_eq_run :
    (ofSource h axes viewport heldUntil).reached =
      (run axes viewport.width true blank h.toList).reached := by
  rw [ofSource_history hsize, reached_close_hold]

/-- All buckets that begin before the instant that a trace comes to are looked at. -/
theorem mem_seen_of_start_lt (ho : Ordered h.toList) (hb : b ∈ h.toList)
    (hlt : b.start < (ofSource h axes viewport heldUntil).reached) :
    b ∈ seen axes viewport.width h.toList := by
  obtain ⟨last, hlast, hreached⟩ := exists_reached_run (List.ne_nil_of_mem hb) true blank
  obtain ⟨rest, hrest⟩ := seen_prefix axes viewport.width h.toList
  have hapart := ho.apart
  rw [← hrest] at hb hapart
  refine (List.mem_append.1 hb).resolve_right fun hb => ?_
  have hle : last.finish ≤ b.start := (List.pairwise_append.1 hapart).2.2 last hlast b hb
  rw [reached_ofSource_eq_run hsize, hreached] at hlt
  exact Int64.not_le.2 hlt hle

variable (hmovable : ∀ b ∈ seen axes viewport.width h.toList, b.Movable d)

include hmovable

theorem inRange_reached : InRange ((ofSource h axes viewport heldUntil).reached.toInt + d) := by
  rw [reached_ofSource_eq_run hsize]
  exact inRange_reached_run (History.toList_ne_nil hsize) hmovable true blank

/-- A history that was moved in time has the same trace, but for the instant that it has come to. -/
theorem ofSource_shift (hheld : ∀ instant ∈ heldUntil, InRange (instant.toInt + d)) :
    ofSource (h.shift d) (axes.shift d) viewport (heldUntil.map (TrafficChart.shift d)) =
      (ofSource h axes viewport heldUntil).shift d := by
  have hne : h.toList ≠ [] := History.toList_ne_nil hsize
  have hsize' : 2 ≤ (h.shift d).size := by rwa [h.size_shift]
  -- Where a trace has come to before its first bucket does not matter.
  have hblank : run (axes.shift d) viewport.width true blank (h.toList.map (Bucket.shift d)) =
      run (axes.shift d) viewport.width true (blank.shift d) (h.toList.map (Bucket.shift d)) := by
    obtain ⟨b, newer, hcons⟩ := List.exists_cons_of_ne_nil hne
    rw [hcons]
    rfl
  rw [ofSource_history hsize, ofSource_history hsize', h.toList_shift, hblank, run_shift hmovable,
    hold_shift (inRange_reached_run hne hmovable true blank) hheld, close_shift]

end

end Trace

end TrafficChart

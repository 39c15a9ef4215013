import TrafficChart.Overflow
import TrafficChart.Proofs.History.FullScan

/-!
# Histories moved in time

A window query compares instants and takes differences of them. So it finds in a history that was
moved in time what it finds in the original, if the window is moved along, as long as the instants
that it needs stay representable.
-/

namespace TrafficChart

/-! ## Instants -/

/-- The instant `d` milliseconds later, earlier if `d` is negative. -/
def shift (d : Int) (t : Int64) : Int64 := clampInt64 (t.toInt + d)

section

variable {d : Int} {s t : Int64}

theorem toInt_shift (h : InRange (t.toInt + d)) : (shift d t).toInt = t.toInt + d :=
  toInt_clampInt64_of_inRange h

theorem shift_neg_shift (h : InRange (t.toInt + d)) : shift (-d) (shift d t) = t := by
  rw [shift, toInt_shift h, Int.add_neg_cancel_right, clampInt64_toInt]

theorem shift_lt_shift_iff (hs : InRange (s.toInt + d)) (ht : InRange (t.toInt + d)) :
    shift d s < shift d t ↔ s < t := by
  rw [Int64.lt_iff_toInt_lt, Int64.lt_iff_toInt_lt, toInt_shift hs, toInt_shift ht]
  omega

theorem shift_le_shift_iff (hs : InRange (s.toInt + d)) (ht : InRange (t.toInt + d)) :
    shift d s ≤ shift d t ↔ s ≤ t := by
  rw [Int64.le_iff_toInt_le, Int64.le_iff_toInt_le, toInt_shift hs, toInt_shift ht]
  omega

theorem satAdd_shift (ht : InRange (t.toInt + d)) (h : InRange (t.toInt + s.toInt)) :
    satAdd (shift d t) s = shift d (satAdd t s) := by
  rw [satAdd, satAdd, toInt_shift ht, shift, toInt_clampInt64_of_inRange h]
  exact congrArg clampInt64 (by omega)

theorem satSub_shift (ht : InRange (t.toInt + d)) (h : InRange (t.toInt - s.toInt)) :
    satSub (shift d t) s = shift d (satSub t s) := by
  rw [satSub, satSub, toInt_shift ht, shift, toInt_clampInt64_of_inRange h]
  exact congrArg clampInt64 (by omega)

/-- A difference of instants does not change when both are moved. -/
theorem satSub_shift_shift (hs : InRange (s.toInt + d)) (ht : InRange (t.toInt + d)) :
    satSub (shift d t) (shift d s) = satSub t s := by
  rw [satSub, satSub, toInt_shift hs, toInt_shift ht]
  exact congrArg clampInt64 (by omega)

end

/-! ## Buckets -/

namespace Bucket

variable {b : Bucket} {d : Int} {start finish asOf : Int64}

/-- The bucket `d` milliseconds later. -/
def shift (d : Int) (b : Bucket) : Bucket := { b with start := TrafficChart.shift d b.start }

/-- The end of the bucket, before any clamp. -/
def exactFinish (b : Bucket) : Int := b.start.toInt + b.duration.toInt

theorem toInt_finish_of_inRange (h : InRange b.exactFinish) : b.finish.toInt = b.exactFinish :=
  toInt_clampInt64_of_inRange h

theorem exactFinish_shift (hs : InRange (b.start.toInt + d)) :
    (b.shift d).exactFinish = b.exactFinish + d := by
  have hstart : (b.shift d).start.toInt = b.start.toInt + d := toInt_shift hs
  have hduration : (b.shift d).duration = b.duration := rfl
  rw [exactFinish, exactFinish, hstart, hduration]
  omega

theorem finish_shift (hs : InRange (b.start.toInt + d)) (hf : InRange b.exactFinish) :
    (b.shift d).finish = TrafficChart.shift d b.finish :=
  satAdd_shift hs hf

/-- Where the bucket and the same bucket `d` milliseconds later begin and end is representable. -/
structure Movable (d : Int) (b : Bucket) : Prop where
  start : InRange (b.start.toInt + d)
  finish : InRange b.exactFinish
  shifted : InRange (b.exactFinish + d)

namespace Movable

theorem finish_shift (h : b.Movable d) : (b.shift d).finish = TrafficChart.shift d b.finish :=
  Bucket.finish_shift h.start h.finish

theorem inRange_finish (h : b.Movable d) : InRange (b.finish.toInt + d) := by
  rw [toInt_finish_of_inRange h.finish]
  exact h.shifted

theorem active_shift_iff (h : b.Movable d) (ha : InRange (asOf.toInt + d)) :
    (b.shift d).Active (TrafficChart.shift d asOf) ↔ b.Active asOf := by
  rw [Active, Active, h.finish_shift]
  exact and_congr (shift_lt_shift_iff h.start ha) (shift_lt_shift_iff ha h.inRange_finish)

theorem cut_shift (h : b.Movable d) (hs : InRange (start.toInt + d))
    (hf : InRange (finish.toInt + d)) :
    (b.shift d).cut (TrafficChart.shift d start) (TrafficChart.shift d finish) =
      b.cut start finish := by
  rw [cut, cut, h.finish_shift, toInt_shift h.inRange_finish, toInt_shift hs, toInt_shift hf,
    shift, toInt_shift h.start]
  omega

theorem partIn_shift (h : b.Movable d) (hs : InRange (start.toInt + d))
    (hf : InRange (finish.toInt + d)) (ha : InRange (asOf.toInt + d)) (bytes : UInt64) :
    (b.shift d).partIn (TrafficChart.shift d start) (TrafficChart.shift d finish)
      (TrafficChart.shift d asOf) bytes = b.partIn start finish asOf bytes := by
  have hoverlap : (b.shift d).overlap (TrafficChart.shift d start) (TrafficChart.shift d finish)
      (TrafficChart.shift d asOf) = b.overlap start finish asOf := by
    rw [overlap, overlap, h.cut_shift hs hf]
    exact if_congr (h.active_shift_iff ha) rfl rfl
  rw [partIn, partIn, hoverlap]
  rfl

end Movable

end Bucket

/-! ## Histories -/

theorem takeWhile_congr {α : Type} {p q : α → Bool} {l : List α} (h : ∀ a ∈ l, p a = q a) :
    l.takeWhile p = l.takeWhile q := by
  induction l with
  | nil => rfl
  | cons a l ih =>
    obtain ⟨ha, hl⟩ := List.forall_mem_cons.1 h
    rw [List.takeWhile_cons, List.takeWhile_cons, ha, ih hl]

namespace History

variable {h : History} {d : Int} {start finish asOf : Int64}

/-- The history `d` milliseconds later. -/
def shift (d : Int) (h : History) : History :=
  { h with buckets := (h.toList.map (Bucket.shift d)).toArray }

@[simp]
theorem toList_shift (d : Int) (h : History) : (h.shift d).toList = h.toList.map (Bucket.shift d) :=
  rfl

@[simp]
theorem size_shift (d : Int) (h : History) : (h.shift d).size = h.size := by
  simp [shift, size, toList]

/-- The query looks at the same buckets. -/
theorem visited_shift (ho : Ordered h.toList)
    (hstart : ∀ b ∈ h.toList, InRange (b.start.toInt + d)) (hs : InRange (start.toInt + d))
    (hf : InRange (finish.toInt + d))
    (hmovable : ∀ b ∈ h.toList, b.start < finish → b.Movable d) :
    (h.shift d).visited (TrafficChart.shift d start) (TrafficChart.shift d finish) =
      (h.visited start finish).map (Bucket.shift d) := by
  have horder : (h.shift d).toList.Pairwise fun a b => a.start ≤ b.start := by
    rw [toList_shift, List.pairwise_map]
    exact ho.start_mono.imp_of_mem fun ha hb hab =>
      (shift_le_shift_iff (hstart _ ha) (hstart _ hb)).2 hab
  have hbegins : ∀ b ∈ h.toList, decide ((b.shift d).start < TrafficChart.shift d finish) =
      decide (b.start < finish) := fun b hb =>
    decide_eq_decide.2 (shift_lt_shift_iff (hstart b hb) hf)
  have hends : ∀ b ∈ (h.toList.filter fun b => b.start < finish).reverse,
      decide (TrafficChart.shift d start < (b.shift d).finish) = decide (start < b.finish) := by
    intro b hb
    obtain ⟨hb, hlt⟩ := List.mem_filter.1 (List.mem_reverse.1 hb)
    have hmove := hmovable b hb (of_decide_eq_true hlt)
    rw [hmove.finish_shift]
    exact decide_eq_decide.2 (shift_lt_shift_iff hs hmove.inRange_finish)
  rw [visited_eq_takeWhile horder, visited_eq_takeWhile ho.start_mono, toList_shift,
    List.filter_map, ← List.map_reverse, List.takeWhile_map]
  simp only [Function.comp_def]
  rw [List.filter_congr hbegins, takeWhile_congr hends]

theorem emptyWindow_shift (hs : InRange (start.toInt + d)) (hf : InRange (finish.toInt + d)) :
    emptyWindow (TrafficChart.shift d start) (TrafficChart.shift d finish) =
      { emptyWindow start finish with start := TrafficChart.shift d start } := by
  simp only [emptyWindow, satSub_shift_shift hs hf, shift_le_shift_iff hf hs]

/-- And it finds the same bytes. -/
theorem usage_shift (ho : Ordered h.toList)
    (hstart : ∀ b ∈ h.toList, InRange (b.start.toInt + d)) (hs : InRange (start.toInt + d))
    (hf : InRange (finish.toInt + d)) (ha : InRange (asOf.toInt + d))
    (hmovable : ∀ b ∈ h.toList, b.start < finish → b.Movable d) :
    (h.shift d).usage (TrafficChart.shift d start) (TrafficChart.shift d finish)
      (TrafficChart.shift d asOf) =
        { h.usage start finish asOf with start := TrafficChart.shift d start } := by
  have hparts (counter : Bucket → UInt64) (hcounter : ∀ b, counter (b.shift d) = counter b) :
      ((h.visited start finish).map (Bucket.shift d)).map (fun b =>
        (b.partIn (TrafficChart.shift d start) (TrafficChart.shift d finish)
          (TrafficChart.shift d asOf) (counter b)).toNat) =
      (h.visited start finish).map fun b => (b.partIn start finish asOf (counter b)).toNat := by
    rw [List.map_map]
    refine List.map_congr_left fun b hb => ?_
    rw [visited_eq_meeting ho, List.mem_reverse] at hb
    obtain ⟨hmem, hlt, -⟩ := mem_meeting.1 hb
    rw [Function.comp_apply, hcounter, (hmovable b hmem hlt).partIn_shift hs hf ha]
  rw [usage, usage, visited_shift ho hstart hs hf hmovable, emptyWindow_shift hs hf,
    foldl_credit _ _ _ _ 0 0 rfl rfl, foldl_credit _ _ _ _ 0 0 rfl rfl,
    hparts Bucket.rx fun _ => rfl, hparts Bucket.tx fun _ => rfl]
  simp only [shift_le_shift_iff hf hs]
  split <;> rfl

end History

end TrafficChart

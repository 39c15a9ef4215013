import TrafficChart.Proofs.Recorder.Slots

/-!
# Histories that can arise

Histories are created empty, made of given buckets, extended, or made by a recorder. However one
arises, its buckets have a length and do not overlap.
-/

namespace TrafficChart

/-! ## Order of the buckets -/

theorem Ordered.start_mono {buckets : List Bucket} (ho : Ordered buckets) :
    buckets.Pairwise fun a b => a.start ≤ b.start :=
  ho.apart.imp_of_mem fun ha _ hab =>
    Int64.le_trans (Bucket.start_le_finish (ho.duration_pos _ ha)) hab

theorem Ordered.finish_mono {buckets : List Bucket} (ho : Ordered buckets) :
    buckets.Pairwise fun a b => a.finish ≤ b.finish :=
  ho.apart.imp_of_mem fun _ hb hab =>
    Int64.le_trans hab (Bucket.start_le_finish (ho.duration_pos _ hb))

/-! ## Recorded buckets -/

namespace Recorder

theorem toList_toHistory (r : Recorder) :
    r.toHistory.toList = r.slots.toList.map fun s => bucketOf r.width s.1 s.2 := by
  simp [toHistory, History.toList]

theorem Sound.toInt_start {r : Recorder} (hs : r.Sound) {i : Int} (hi : i ∈ r.slots)
    (tally : Tally) : (bucketOf r.width i tally).start.toInt = i * r.width.toInt := by
  have hw := hs.width_pos
  have hrange := hs.inRange i hi
  rw [add_one_mul] at hrange
  rw [bucketOf, Int64.toInt_ofInt_of_le] <;> omega

theorem Sound.toInt_finish {r : Recorder} (hs : r.Sound) {i : Int} (hi : i ∈ r.slots)
    (tally : Tally) : (bucketOf r.width i tally).finish.toInt = (i + 1) * r.width.toInt := by
  have hrange := hs.inRange i hi
  have hw : 0 < (bucketOf r.width i tally).duration := Int64.lt_iff_toInt_lt.2 hs.width_pos
  rw [Bucket.toInt_finish _ hw, hs.toInt_start hi]
  rw [add_one_mul] at hrange ⊢
  exact min_eq_left hrange.2

/-- A recorder makes an ordered history. -/
theorem Sound.ordered {r : Recorder} (hs : r.Sound) : Ordered r.toHistory.toList := by
  rw [toList_toHistory]
  constructor
  · intro b hb
    obtain ⟨s, -, rfl⟩ := List.mem_map.1 hb
    exact Int64.lt_iff_toInt_lt.2 hs.width_pos
  · refine List.pairwise_map.2 (Std.TreeMap.ordered_keys_toList.imp_of_mem ?_)
    intro a b ha hb hab
    have hlt : a.1 + 1 ≤ b.1 := Int.compare_eq_lt.1 hab
    rw [Int64.le_iff_toInt_le, hs.toInt_finish (mem_of_mem_toList ha),
      hs.toInt_start (mem_of_mem_toList hb)]
    exact Int.mul_le_mul_of_nonneg_right hlt hs.width_pos.le

end Recorder

/-! ## Reachable histories -/

namespace History

/-- The histories that can arise: empty ones, those of given buckets, extensions, and those of
recorders. -/
inductive Reachable : History → Prop
  | create {bucketLength : Int64} {h : History} : create bucketLength = .ok h → Reachable h
  | ofBuckets {bucketLength : Int64} {buckets : List Bucket} {h : History} :
    ofBuckets bucketLength buckets = .ok h → Reachable h
  | push {h k : History} {b : Bucket} : Reachable h → h.push b = .ok k → Reachable k
  | recorded {r : Recorder} : r.Reachable → Reachable r.toHistory

theorem ordered_create {bucketLength : Int64} {h : History} (hc : create bucketLength = .ok h) :
    Ordered h.toList := by
  unfold create at hc
  split at hc
  · cases hc
  · obtain rfl := Except.ok.inj hc
    exact Ordered.nil

theorem bucketLength_pos_create {bucketLength : Int64} {h : History}
    (hc : create bucketLength = .ok h) : 0 < h.bucketLength := by
  unfold create at hc
  split at hc
  · cases hc
  · rename_i hd
    obtain rfl := Except.ok.inj hc
    exact Int64.not_le.1 hd

/-- What each push keeps holds after all of them. -/
theorem foldlM_push_induction {P : History → Prop}
    (hpush : ∀ {h k : History} {b : Bucket}, P h → h.push b = .ok k → P k) {h k : History}
    {buckets : List Bucket} (hh : P h) (hk : buckets.foldlM push h = .ok k) : P k := by
  induction buckets generalizing h with
  | nil =>
    obtain rfl : h = k := Except.ok.inj hk
    exact hh
  | cons b buckets ih =>
    rw [List.foldlM_cons] at hk
    cases hb : h.push b with
    | error e =>
      rw [hb] at hk
      cases hk
    | ok g =>
      rw [hb] at hk
      exact ih (hpush hh hb) hk

/-- What holds of empty histories and is kept by each push holds of the histories of given
buckets. -/
theorem ofBuckets_induction {P : History → Prop}
    (hcreate : ∀ {bucketLength : Int64} {h : History}, create bucketLength = .ok h → P h)
    (hpush : ∀ {h k : History} {b : Bucket}, P h → h.push b = .ok k → P k)
    {bucketLength : Int64} {buckets : List Bucket} {h : History}
    (hb : ofBuckets bucketLength buckets = .ok h) : P h := by
  unfold ofBuckets at hb
  cases hc : create bucketLength with
  | error e =>
    rw [hc] at hb
    cases hb
  | ok empty =>
    rw [hc] at hb
    exact foldlM_push_induction hpush (hcreate hc) hb

/-- The buckets of a history that can arise are ordered. -/
theorem Reachable.ordered {h : History} (hr : h.Reachable) : Ordered h.toList := by
  induction hr with
  | create hc => exact ordered_create hc
  | ofBuckets hb => exact ofBuckets_induction ordered_create ordered_push hb
  | push _ hp ih => exact ordered_push ih hp
  | recorded hr => exact hr.sound.ordered

theorem Reachable.bucketLength_pos {h : History} (hr : h.Reachable) : 0 < h.bucketLength := by
  induction hr with
  | create hc => exact bucketLength_pos_create hc
  | ofBuckets hb =>
    exact ofBuckets_induction bucketLength_pos_create
      (fun hh hp => (bucketLength_push hp).symm ▸ hh) hb
  | push _ hp ih => exact (bucketLength_push hp).symm ▸ ih
  | recorded hr => exact Int64.lt_iff_toInt_lt.2 hr.sound.width_pos

end History

end TrafficChart

import TrafficChart.Proofs.History.Portions
import TrafficChart.Proofs.History.Shift

/-!
# Windows within windows

A window that holds another one meets all buckets that the other one meets, and has no less in
common with each of them. So it counts no less, although the two queries begin and end at different
buckets. A window that spans the history counts all of it.
-/

namespace TrafficChart

namespace Bucket

variable {b : Bucket} {start finish start' finish' asOf : Int64} {c : Counter}

theorem overlap_mono (hl : start' ≤ start) (hr : finish ≤ finish') :
    b.overlap start finish asOf ≤ b.overlap start' finish' asOf := by
  rw [Int64.le_iff_toInt_le] at hl hr
  unfold overlap cut
  split <;> omega

/-- A larger window counts no less of a bucket. -/
theorem portion_mono (hd : 0 < b.duration) (hw : start < finish) (hl : start' ≤ start)
    (hr : finish ≤ finish') :
    b.portion start finish asOf c ≤ b.portion start' finish' asOf c := by
  by_cases hm : b.start < finish ∧ start < b.finish
  · have hs : b.start < finish' := Int64.lt_of_lt_of_le hm.1 hr
    have hf : start' < b.finish := Int64.lt_of_le_of_lt hl hm.2
    have hw' : start' < finish' := Int64.lt_of_le_of_lt hl (Int64.lt_of_lt_of_le hw hr)
    rw [portion_of_meets hd hw hm.1 hm.2, portion_of_meets hd hw' hs hf]
    exact Nat.div_le_div_right
      (Nat.mul_le_mul_left _ (Int.toNat_le_toNat (overlap_mono hl hr)))
  · rw [portion_of_apart hm]
    exact Nat.zero_le _

/-- A bucket that lies within the window counts with all its bytes. -/
theorem portion_of_within (hd : 0 < b.duration) (hs : start ≤ b.start)
    (hf : b.exactFinish ≤ finish.toInt) :
    b.portion start finish asOf c = (b.bytes c).toNat := by
  have hend := b.toInt_finish hd
  have hmax := finish.toInt_lt
  have hpos : 0 < b.duration.toInt := Int64.lt_iff_toInt_lt.1 hd
  rw [Int64.le_iff_toInt_le] at hs
  rw [exactFinish] at hf
  have hmeets : b.start < finish ∧ start < b.finish := by
    simp only [Int64.lt_iff_toInt_lt]
    omega
  have hall : b.overlap start finish asOf = b.duration.toInt := by
    unfold overlap cut
    split <;> omega
  rw [portion, if_pos hmeets, partIn, hall, share_self _ hpos]

end Bucket

/-- If a window spans the first and the last bucket, it spans all of them. -/
theorem Ordered.within {buckets : List Bucket} (ho : Ordered buckets) {start finish : Int64}
    (hs : ∀ b ∈ buckets.head?, start ≤ b.start)
    (hf : ∀ b ∈ buckets.getLast?, b.finish ≤ finish ∧ b.exactFinish ≤ 9223372036854775807)
    {b : Bucket} (hb : b ∈ buckets) : start ≤ b.start ∧ b.exactFinish ≤ finish.toInt := by
  constructor
  · cases buckets with
    | nil => cases hb
    | cons first newer =>
      have hfirst : start ≤ first.start := hs first rfl
      rcases List.mem_cons.1 hb with rfl | hb
      · exact hfirst
      · exact Int64.le_trans hfirst ((List.pairwise_cons.1 ho.start_mono).1 b hb)
  · obtain rfl | ⟨older, last, rfl⟩ := List.eq_nil_or_concat buckets
    · cases hb
    · rw [List.concat_eq_append] at *
      obtain ⟨hfinish, hrange⟩ := hf last (by simp)
      have hlast := last.toInt_finish (ho.duration_pos last (by simp))
      have hpos := Int64.lt_iff_toInt_lt.1 (ho.duration_pos last (by simp))
      have hend := b.toInt_finish (ho.duration_pos b hb)
      simp only [Int64.le_iff_toInt_le, Int64.toInt_zero, Bucket.exactFinish] at *
      rcases List.mem_append.1 hb with hb | hb
      · have hapart := (List.pairwise_append.1 ho.apart).2.2 b hb last (by simp)
        rw [Int64.le_iff_toInt_le] at hapart
        omega
      · obtain rfl := List.mem_singleton.1 hb
        omega

namespace History

variable {h : History}

theorem bytes_usage_mono (ho : Ordered h.toList) {start finish start' finish' : Int64}
    (hw : start < finish) (hl : start' ≤ start) (hr : finish ≤ finish') (asOf : Int64)
    (c : Counter) :
    (h.usage start finish asOf).bytes c ≤ (h.usage start' finish' asOf).bytes c := by
  have hw' : start' < finish' := Int64.lt_of_le_of_lt hl (Int64.lt_of_lt_of_le hw hr)
  have hsum : (h.toList.map fun b => b.portion start finish asOf c).sum ≤
      (h.toList.map fun b => b.portion start' finish' asOf c).sum :=
    List.sum_le_sum fun b hb => Bucket.portion_mono (ho.duration_pos b hb) hw hl hr
  rw [UInt64.le_iff_toNat_le, bytes_usage ho hw, bytes_usage ho hw']
  exact min_le_min_right _ hsum

theorem bytes_usage_le (ho : Ordered h.toList) (start finish asOf : Int64) (c : Counter) :
    ((h.usage start finish asOf).bytes c).toNat ≤
      min (h.toList.map fun b => (b.bytes c).toNat).sum 18446744073709551615 := by
  by_cases hw : start < finish
  · rw [bytes_usage ho hw]
    exact min_le_min_right _
      (List.sum_le_sum fun b hb => Bucket.portion_le (ho.duration_pos b hb) hw)
  · rw [usage_of_le h asOf (Int64.not_lt.1 hw)]
    cases c <;> exact Nat.zero_le _

theorem bytes_usage_of_within (ho : Ordered h.toList) {start finish : Int64} (asOf : Int64)
    (c : Counter) (hwithin : ∀ b ∈ h.toList, start ≤ b.start ∧ b.exactFinish ≤ finish.toInt) :
    ((h.usage start finish asOf).bytes c).toNat =
      min (h.toList.map fun b => (b.bytes c).toNat).sum 18446744073709551615 := by
  by_cases hw : start < finish
  · have hportions : h.toList.map (fun b => b.portion start finish asOf c) =
        h.toList.map fun b => (b.bytes c).toNat :=
      List.map_congr_left fun b hb =>
        Bucket.portion_of_within (ho.duration_pos b hb) (hwithin b hb).1 (hwithin b hb).2
    rw [bytes_usage ho hw, hportions]
  · have hempty : h.toList = [] := by
      refine List.eq_nil_iff_forall_not_mem.2 fun b hb => hw ?_
      have hd := Int64.lt_iff_toInt_lt.1 (ho.duration_pos b hb)
      obtain ⟨hs, hf⟩ := hwithin b hb
      rw [Int64.le_iff_toInt_le] at hs
      rw [Int64.toInt_zero] at hd
      rw [Bucket.exactFinish] at hf
      rw [Int64.lt_iff_toInt_lt]
      omega
    rw [usage_of_le h asOf (Int64.not_lt.1 hw), hempty]
    cases c <;> rfl

/-- A window all of whose instants lie in another window counts no more than that. No window counts
more than there is, and a window that spans the history counts all of it, unless the last bucket
runs beyond the range of instants. -/
theorem usage_of_nested (hreach : h.Reachable) (asOf : Int64) (c : Counter) :
    let all := min (h.toList.map fun b => (b.bytes c).toNat).sum 18446744073709551615
    (∀ start finish start' finish' : Int64,
      (∀ t, start ≤ t → t < finish → start' ≤ t ∧ t < finish') →
      (h.usage start finish asOf).bytes c ≤ (h.usage start' finish' asOf).bytes c) ∧
    (∀ start finish : Int64, ((h.usage start finish asOf).bytes c).toNat ≤ all) ∧
    ∀ start finish : Int64, (∀ b ∈ h.first?, start ≤ b.start) →
      (∀ b ∈ h.last?,
        b.finish ≤ finish ∧ b.start.toInt + b.duration.toInt ≤ 9223372036854775807) →
      ((h.usage start finish asOf).bytes c).toNat = all := by
  have ho := hreach.ordered
  refine ⟨?_, fun start finish => bytes_usage_le ho start finish asOf c, ?_⟩
  · intro start finish start' finish' hnested
    by_cases hw : start < finish
    · -- The first and the last instant of the inner window lie in the outer one.
      obtain ⟨hl, hs⟩ := hnested start (Int64.le_refl start) hw
      have hr : finish ≤ finish' := Int64.not_lt.1 fun hlt =>
        Int64.lt_irrefl (hnested finish' (Int64.le_of_lt hs) hlt).2
      exact bytes_usage_mono ho hw hl hr asOf c
    · rw [usage_of_le h asOf (Int64.not_lt.1 hw), UInt64.le_iff_toNat_le]
      cases c <;> exact Nat.zero_le _
  · intro start finish hs hf
    refine bytes_usage_of_within ho asOf c fun b hb => ho.within ?_ ?_ hb
    · rwa [List.head?_eq_getElem?, getElem?_toList]
    · rwa [getLast?_toList]

/-- Buckets of unequal length with a gap, of which the window from 50 on cuts the first one, once it
is complete and while it is being filled. -/
theorem usage_of_nested_irregular :
    ∃ h, ofBuckets 100 [⟨0, 100, 101, 7⟩, ⟨300, 50, 50, 1⟩, ⟨9223372036854775300, 400, 400, 3⟩] =
        .ok h ∧
      (h.usage 50 320 200).rx ≤ (h.usage (-10) 350 200).rx ∧
      (h.usage 50 320 60).rx ≤ (h.usage (-10) 350 60).rx ∧
      (h.usage 320 50 60).rx ≤ (h.usage 7 7 60).rx ∧
      (h.usage (-10) 350 200).rx.toNat ≤ 551 ∧
      (h.usage 0 9223372036854775700 200).rx.toNat = 551 := by
  let h : History := ⟨100, #[⟨0, 100, 101, 7⟩, ⟨300, 50, 50, 1⟩,
    ⟨9223372036854775300, 400, 400, 3⟩]⟩
  have hb : ofBuckets 100 h.toList = .ok h := rfl
  have hall : min (h.toList.map fun b => (b.bytes .rx).toNat).sum 18446744073709551615 = 551 := by
    decide
  have hnested : ∀ t : Int64, 50 ≤ t → t < 320 → -10 ≤ t ∧ t < 350 := fun t hs hf =>
    ⟨Int64.le_trans (by decide) hs, Int64.lt_trans hf (by decide)⟩
  have hreversed : ∀ t : Int64, 320 ≤ t → t < 50 → 7 ≤ t ∧ t < 7 := fun t hs hf =>
    absurd (Int64.lt_of_le_of_lt hs hf) (by decide)
  obtain ⟨hcomplete, hle, hspans⟩ := usage_of_nested (.ofBuckets hb) 200 .rx
  obtain ⟨hfilling, -, -⟩ := usage_of_nested (.ofBuckets hb) 60 .rx
  rw [hall] at hle hspans
  exact ⟨h, hb, hcomplete 50 320 (-10) 350 hnested, hfilling 50 320 (-10) 350 hnested,
    hfilling 320 50 7 7 hreversed, hle (-10) 350,
    hspans 0 9223372036854775700 (by decide) (by decide)⟩

end History

end TrafficChart

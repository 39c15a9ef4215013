import TrafficChart.Proofs.History.FullScan
import TrafficChart.Proofs.Recorder.Counters

/-!
# What a window query counts of each bucket

A query adds up one portion for each bucket of the history: its share of the window if it meets
the window, and nothing otherwise. No portion exceeds the bytes of its bucket, so the sum is exact
whenever the bytes of all buckets together are a byte count.
-/

namespace TrafficChart

namespace Bucket

variable {b : Bucket} {start finish asOf : Int64} {c : Counter}

/-- What a query over the window counts of a bucket. -/
def portion (b : Bucket) (start finish asOf : Int64) (c : Counter) : Nat :=
  if b.start < finish ∧ start < b.finish then (b.partIn start finish asOf (b.bytes c)).toNat
  else 0

theorem duration_toNat_pos (hd : 0 < b.duration) : 0 < b.duration.toInt.toNat := by
  have : 0 < b.duration.toInt := Int64.lt_iff_toInt_lt.1 hd
  omega

theorem portion_of_apart (h : ¬ (b.start < finish ∧ start < b.finish)) :
    b.portion start finish asOf c = 0 := if_neg h

/-- A bucket that meets the window counts by the length that counts. -/
theorem portion_of_meets (hd : 0 < b.duration) (hw : start < finish) (hs : b.start < finish)
    (hf : start < b.finish) :
    b.portion start finish asOf c =
      (b.bytes c).toNat * (b.overlap start finish asOf).toNat / b.duration.toInt.toNat := by
  obtain ⟨hpos, hle⟩ := History.overlap_of_meets asOf hd hw hs hf
  rw [portion, if_pos ⟨hs, hf⟩]
  exact toNat_share_of_le (b.bytes c) hpos hle

theorem portion_le (hd : 0 < b.duration) (hw : start < finish) :
    b.portion start finish asOf c ≤ (b.bytes c).toNat := by
  by_cases hm : b.start < finish ∧ start < b.finish
  · rw [portion_of_meets hd hw hm.1 hm.2]
    exact mul_toNat_div_le _ (History.overlap_of_meets asOf hd hw hm.1 hm.2).2
  · simp [portion_of_apart hm]

/-- A bucket that is being filled counts with all its bytes. -/
theorem portion_of_active (hd : 0 < b.duration) (ha : b.Active asOf) (hs : b.start < finish)
    (hf : start < b.finish) : b.portion start finish asOf c = (b.bytes c).toNat := by
  have hpos : 0 < b.duration.toInt := Int64.lt_iff_toInt_lt.1 hd
  rw [portion, if_pos ⟨hs, hf⟩, partIn, overlap, if_pos ha, share_self _ hpos]

end Bucket

namespace History

variable {h : History} {start finish asOf : Int64} {c : Counter}

theorem sum_portion_eq_sum_meeting :
    (h.toList.map fun b => b.portion start finish asOf c).sum =
      ((h.meeting start finish).map fun b =>
        (b.partIn start finish asOf (b.bytes c)).toNat).sum := by
  simp [Bucket.portion, List.sum_map_ite, meeting]

theorem bytes_usage (ho : Ordered h.toList) (hw : start < finish) :
    ((h.usage start finish asOf).bytes c).toNat =
      min (h.toList.map fun b => b.portion start finish asOf c).sum 18446744073709551615 := by
  rw [usage_of_lt ho asOf hw, sum_portion_eq_sum_meeting]
  cases c <;> exact toNat_clampUInt64 _

/-- A query is exact if the bytes of all buckets together are a byte count. -/
theorem bytes_usage_of_fits (ho : Ordered h.toList) (hw : start < finish)
    (hfits : (h.toList.map fun b => (b.bytes c).toNat).sum ≤ 18446744073709551615) :
    ((h.usage start finish asOf).bytes c).toNat =
      (h.toList.map fun b => b.portion start finish asOf c).sum := by
  have hle : (h.toList.map fun b => b.portion start finish asOf c).sum ≤
      (h.toList.map fun b => (b.bytes c).toNat).sum :=
    List.sum_le_sum fun b hb => Bucket.portion_le (ho.duration_pos b hb) hw
  rw [bytes_usage ho hw]
  exact min_eq_left (hle.trans hfits)

end History

end TrafficChart

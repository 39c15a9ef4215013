import TrafficChart.Proofs.History.Acceptance
import TrafficChart.Proofs.History.Nesting

/-!
# Steady histories

A steady history has buckets of one length and with the same bytes, one directly after the other. A
window of whole buckets counts each of them once, whether one of them is being filled or not.
-/

namespace TrafficChart

/-- Equal buckets from `start` on, all of them at representable instants. -/
structure Steady where
  start : Int64
  bucketLength : Int64
  rx : UInt64
  tx : UInt64
  count : Nat
  bucketLength_pos : 0 < bucketLength
  inRange : start.toInt + count * bucketLength.toInt ≤ 9223372036854775807

namespace Steady

variable (s : Steady)

/-- The instant before which there are `i` buckets. -/
def edge (i : Nat) : Int64 := clampInt64 (s.start.toInt + i * s.bucketLength.toInt)

def bucketAt (i : Nat) : Bucket := ⟨s.edge i, s.bucketLength, s.rx, s.tx⟩

/-- The bytes that each bucket counts. -/
def bytes (c : Counter) : UInt64 := (s.bucketAt 0).bytes c

theorem bytes_bucketAt (i : Nat) (c : Counter) : (s.bucketAt i).bytes c = s.bytes c := by
  cases c <;> rfl

def toHistory : History := ⟨s.bucketLength, ((List.range s.count).map s.bucketAt).toArray⟩

theorem toList_toHistory : s.toHistory.toList = (List.range s.count).map s.bucketAt := rfl

/-! ## Instants -/

theorem toInt_bucketLength_pos : 0 < s.bucketLength.toInt :=
  Int64.lt_iff_toInt_lt.1 s.bucketLength_pos

variable {s} {i j n : Nat}

theorem toInt_edge (hi : i ≤ s.count) :
    (s.edge i).toInt = s.start.toInt + i * s.bucketLength.toInt := by
  have hlow := s.start.le_toInt
  have hd := s.toInt_bucketLength_pos
  have hhigh := s.inRange
  have hle : (i : Int) * s.bucketLength.toInt ≤ s.count * s.bucketLength.toInt :=
    Int.mul_le_mul_of_nonneg_right (Int.ofNat_le.2 hi) hd.le
  have hnonneg : 0 ≤ (i : Int) * s.bucketLength.toInt := Int.mul_nonneg (Int.natCast_nonneg i) hd.le
  rw [edge, toInt_clampInt64]
  omega

theorem edge_mono (hij : i ≤ j) : s.edge i ≤ s.edge j :=
  clampInt64_mono (Int.add_le_add_left
    (Int.mul_le_mul_of_nonneg_right (Int.ofNat_le.2 hij) s.toInt_bucketLength_pos.le) _)

theorem edge_lt (hij : i < j) (hj : j ≤ s.count) : s.edge i < s.edge j := by
  rw [Int64.lt_iff_toInt_lt, toInt_edge (hij.le.trans hj), toInt_edge hj]
  exact Int.add_lt_add_left
    (Int.mul_lt_mul_of_pos_right (Int.ofNat_lt.2 hij) s.toInt_bucketLength_pos) _

theorem exactFinish_bucketAt (hi : i < s.count) :
    (s.bucketAt i).exactFinish = (s.edge (i + 1)).toInt := by
  have hstart : (s.bucketAt i).start.toInt = _ := toInt_edge hi.le
  rw [Bucket.exactFinish, hstart, toInt_edge hi, bucketAt]
  push_cast
  rw [add_one_mul, Int.add_assoc]

theorem finish_bucketAt (hi : i < s.count) : (s.bucketAt i).finish = s.edge (i + 1) := by
  have hmax := (s.edge (i + 1)).toInt_lt
  have hend : (s.bucketAt i).start.toInt + (s.bucketAt i).duration.toInt = _ :=
    exactFinish_bucketAt hi
  apply Int64.toInt_inj.1
  rw [Bucket.toInt_finish _ s.bucketLength_pos, hend]
  omega

/-- An instant some whole buckets before an edge is an edge. -/
theorem satSub_edge {m : Nat} {length : Int64} (hi : i ≤ s.count) (hm : m ≤ i)
    (hlength : length.toInt = m * s.bucketLength.toInt) :
    satSub (s.edge i) length = s.edge (i - m) := by
  rw [satSub, toInt_edge hi, edge, hlength, Int.ofNat_sub hm, Int.sub_mul]
  exact congrArg clampInt64 (by omega)

/-! ## The history -/

variable (s) in
theorem ordered : Ordered s.toHistory.toList := by
  rw [toList_toHistory]
  constructor
  · intro b hb
    obtain ⟨i, -, rfl⟩ := List.mem_map.1 hb
    exact s.bucketLength_pos
  · refine List.pairwise_map.2 (List.pairwise_lt_range.imp_of_mem fun {i j} hi _ hij => ?_)
    rw [finish_bucketAt (List.mem_range.1 hi)]
    exact edge_mono hij

variable (s) in
theorem ofBuckets_toHistory :
    History.ofBuckets s.bucketLength s.toHistory.toList = .ok s.toHistory :=
  History.ofBuckets_eq_ok_iff.2 ⟨s.bucketLength_pos, s.ordered, rfl⟩

/-! ## Windows of whole buckets -/

theorem portion_bucketAt {k : Nat} (hk : k < s.count) (asOf : Int64)
    (c : Counter) :
    (s.bucketAt k).portion (s.edge i) (s.edge j) asOf c =
      if i ≤ k ∧ k < j then (s.bytes c).toNat else 0 := by
  split
  · rename_i hwithin
    rw [← s.bytes_bucketAt k]
    refine Bucket.portion_of_within s.bucketLength_pos (edge_mono hwithin.1) ?_
    rw [exactFinish_bucketAt hk]
    exact Int64.le_iff_toInt_le.1 (edge_mono hwithin.2)
  · rename_i hapart
    refine Bucket.portion_of_apart fun hmeets => hapart ?_
    rw [finish_bucketAt hk] at hmeets
    constructor
    · by_contra hlt
      exact Int64.not_le.2 hmeets.2 (edge_mono (by omega))
    · by_contra hle
      exact Int64.not_le.2 hmeets.1 (edge_mono (by omega))

theorem sum_range_ite (hj : j ≤ n) (x : Nat) :
    ((List.range n).map fun k => if i ≤ k ∧ k < j then x else 0).sum = (j - i) * x := by
  have hfilter : (Finset.range n).filter (fun k => i ≤ k ∧ k < j) = Finset.Ico i j := by
    ext k
    rw [Finset.mem_filter, Finset.mem_range, Finset.mem_Ico]
    omega
  calc ((List.range n).map fun k => if i ≤ k ∧ k < j then x else 0).sum
      = ∑ k ∈ Finset.range n, if i ≤ k ∧ k < j then x else 0 := rfl
    _ = ∑ _k ∈ Finset.Ico i j, x := by rw [← Finset.sum_filter, hfilter]
    _ = (j - i) * x := by rw [Finset.sum_const, Nat.card_Ico, smul_eq_mul]

/-- A window of whole buckets counts each of them once. -/
theorem bytes_usage (hij : i < j) (hj : j ≤ s.count) (asOf : Int64) (c : Counter) :
    ((s.toHistory.usage (s.edge i) (s.edge j) asOf).bytes c).toNat =
      min ((j - i) * (s.bytes c).toNat) 18446744073709551615 := by
  have hportions : s.toHistory.toList.map
      (fun b => b.portion (s.edge i) (s.edge j) asOf c) =
        (List.range s.count).map fun k => if i ≤ k ∧ k < j then (s.bytes c).toNat else 0 := by
    rw [toList_toHistory, List.map_map]
    exact List.map_congr_left fun k hk => portion_bucketAt (List.mem_range.1 hk) asOf c
  rw [History.bytes_usage s.ordered (edge_lt hij hj), hportions, sum_range_ite hj]

theorem total_usage (hij : i < j) (hj : j ≤ s.count)
    (hfits : (j - i) * (s.rx.toNat + s.tx.toNat) ≤ 18446744073709551615) (asOf : Int64) :
    (s.toHistory.usage (s.edge i) (s.edge j) asOf).total.toNat =
      (j - i) * (s.rx.toNat + s.tx.toNat) := by
  rw [Nat.mul_add] at hfits ⊢
  have hrx : (s.toHistory.usage (s.edge i) (s.edge j) asOf).rx.toNat = (j - i) * s.rx.toNat :=
    (bytes_usage hij hj asOf .rx).trans (min_eq_left ((Nat.le_add_right _ _).trans hfits))
  have htx : (s.toHistory.usage (s.edge i) (s.edge j) asOf).tx.toNat = (j - i) * s.tx.toNat :=
    (bytes_usage hij hj asOf .tx).trans (min_eq_left ((Nat.le_add_left _ _).trans hfits))
  rw [Bucket.toNat_total, hrx, htx, min_eq_left hfits]

theorem duration_usage (hij : i < j) (hj : j ≤ s.count)
    (hlength : (j - i : ℕ) * s.bucketLength.toInt ≤ 9223372036854775807) (asOf : Int64) :
    (s.toHistory.usage (s.edge i) (s.edge j) asOf).duration.toInt =
      (j - i : ℕ) * s.bucketLength.toInt := by
  have hpos : 0 < ((j - i : ℕ) : Int) * s.bucketLength.toInt :=
    Int.mul_pos (Int.ofNat_lt.2 (Nat.sub_pos_of_lt hij)) s.toInt_bucketLength_pos
  have hdiff : s.start.toInt + j * s.bucketLength.toInt -
      (s.start.toInt + i * s.bucketLength.toInt) = (j - i : ℕ) * s.bucketLength.toInt := by
    rw [Int.ofNat_sub hij.le, Int.sub_mul]
    omega
  rw [History.usage_of_lt s.ordered asOf (edge_lt hij hj), toInt_satSub, toInt_edge hj,
    toInt_edge (hij.le.trans hj), hdiff]
  omega

end Steady

end TrafficChart

import TrafficChart.Proofs.History.Portions
import TrafficChart.Proofs.History.Shift

/-!
# What rounding loses of a window

A window query rounds the share of each bucket down. A share is rounded only if an edge of the
window cuts the bucket, and each edge cuts one bucket at most. So a query loses less than two bytes,
however long the window and however many buckets it meets.

## Main definitions

* `Bucket.common`: the time that a bucket and a window have in common.
* `Bucket.exactPortion`, `History.exactUsage`: what a query would count without rounding.
* `Bucket.CutBy`: whether an instant divides a bucket.
* `Bucket.loss`: what rounding loses of a bucket.
-/

namespace TrafficChart

namespace Bucket

variable {b : Bucket} {start finish asOf : Int64} {c : Counter}

/-- The milliseconds that a bucket and a window have in common. The bucket lasts its full duration,
even beyond the range of instants. -/
def common (b : Bucket) (start finish : Int64) : Nat :=
  (min b.exactFinish finish.toInt - max b.start.toInt start.toInt).toNat

/-- The part of a counter of the bucket that falls into the window, not rounded. -/
def exactPortion (b : Bucket) (start finish : Int64) (c : Counter) : ℚ :=
  ((b.bytes c).toNat * b.common start finish : ℕ) / b.duration.toInt.toNat

/-- The instant has time of the bucket on both of its sides. -/
def CutBy (b : Bucket) (t : Int64) : Prop := b.start.toInt < t.toInt ∧ t.toInt < b.exactFinish

instance (b : Bucket) (t : Int64) : Decidable (b.CutBy t) :=
  inferInstanceAs (Decidable (_ ∧ _))

/-- What rounding loses of the bucket. -/
def loss (b : Bucket) (start finish asOf : Int64) (c : Counter) : ℚ :=
  b.exactPortion start finish c - b.portion start finish asOf c

/-- A window has nothing in common with a bucket that it does not meet. -/
theorem common_of_apart (hd : 0 < b.duration) (hw : start < finish)
    (hm : ¬ (b.start < finish ∧ start < b.finish)) : b.common start finish = 0 := by
  have hend := b.toInt_finish hd
  have hmax := finish.toInt_lt
  simp only [Int64.lt_iff_toInt_lt, Int64.toInt_zero] at hd hw hm
  simp only [common, exactFinish]
  omega

/-- A window has the cut in common with a bucket that it meets: no window reaches beyond the
range of instants. -/
theorem cut_toNat (hd : 0 < b.duration) : (b.cut start finish).toNat = b.common start finish := by
  have hend := b.toInt_finish hd
  have hmax := finish.toInt_lt
  simp only [cut, common, exactFinish]
  omega

theorem portion_of_idle (hd : 0 < b.duration) (hw : start < finish) (hidle : ¬ b.Active asOf) :
    b.portion start finish asOf c =
      (b.bytes c).toNat * b.common start finish / b.duration.toInt.toNat := by
  by_cases hm : b.start < finish ∧ start < b.finish
  · rw [portion_of_meets hd hw hm.1 hm.2, overlap, if_neg hidle, cut_toNat hd]
  · rw [portion_of_apart hm, common_of_apart hd hw hm, Nat.mul_zero, Nat.zero_div]

/-- If neither edge cuts the bucket, all of it or nothing falls into the window. -/
theorem common_of_not_cut (hd : 0 < b.duration) (hw : start < finish) (hs : ¬ b.CutBy start)
    (hf : ¬ b.CutBy finish) :
    b.common start finish = 0 ∨ b.common start finish = b.duration.toInt.toNat := by
  simp only [Int64.lt_iff_toInt_lt, Int64.toInt_zero] at hd hw
  simp only [CutBy, common, exactFinish] at *
  omega

/-! ## The loss of one bucket -/

theorem loss_nonneg (hd : 0 < b.duration) (hw : start < finish) (hidle : ¬ b.Active asOf) :
    0 ≤ b.loss start finish asOf c := by
  rw [loss, portion_of_idle hd hw hidle]
  exact sub_nonneg.2 Nat.cast_div_le

theorem loss_lt_one (hd : 0 < b.duration) (hw : start < finish) (hidle : ¬ b.Active asOf) :
    b.loss start finish asOf c < 1 := by
  have hpos : (0 : ℚ) < b.duration.toInt.toNat := Nat.cast_pos.2 (duration_toNat_pos hd)
  rw [loss, portion_of_idle hd hw hidle, exactPortion, sub_lt_iff_lt_add', div_lt_iff₀ hpos]
  have := Nat.lt_div_mul_add (a := (b.bytes c).toNat * b.common start finish)
    (duration_toNat_pos hd)
  rw [add_one_mul]
  exact_mod_cast this

theorem loss_of_not_cut (hd : 0 < b.duration) (hw : start < finish) (hidle : ¬ b.Active asOf)
    (hs : ¬ b.CutBy start) (hf : ¬ b.CutBy finish) : b.loss start finish asOf c = 0 := by
  have hpos := duration_toNat_pos hd
  rw [loss, portion_of_idle hd hw hidle, exactPortion, sub_eq_zero]
  rcases common_of_not_cut hd hw hs hf with hnone | hall
  · simp [hnone]
  · rw [hall, Nat.mul_div_cancel _ hpos, Nat.cast_mul]
    exact mul_div_cancel_right₀ _ (Nat.cast_ne_zero.2 hpos.ne')

/-- The loss of a bucket is due to an edge that cuts it. -/
theorem loss_le_edges (hd : 0 < b.duration) (hw : start < finish) (hidle : ¬ b.Active asOf) :
    b.loss start finish asOf c ≤
      (if b.CutBy start then b.loss start finish asOf c else 0) +
        (if b.CutBy finish then b.loss start finish asOf c else 0) := by
  have hnonneg := loss_nonneg (c := c) hd hw hidle
  split
  · split <;> linarith
  · split
    · linarith
    · rename_i hs hf
      rw [loss_of_not_cut hd hw hidle hs hf, add_zero]

end Bucket

/-! ## The loss of all buckets -/

/-- An instant cuts one bucket at most. -/
theorem Ordered.cutBy_one {buckets : List Bucket} (ho : Ordered buckets) (t : Int64) :
    buckets.Pairwise fun a b => ¬ (a.CutBy t ∧ b.CutBy t) := by
  refine ho.apart.imp_of_mem fun {a b} ha _ hab => ?_
  have hend := a.toInt_finish (ho.duration_pos a ha)
  have hmax := t.toInt_lt
  rw [Int64.le_iff_toInt_le] at hab
  simp only [Bucket.CutBy, Bucket.exactFinish]
  omega

/-- If one entry at most is counted, its value bounds the sum. -/
theorem sum_map_ite_lt_one {α : Type} {p : α → Prop} [DecidablePred p] {f : α → ℚ} {l : List α}
    (hone : l.Pairwise fun a b => ¬ (p a ∧ p b)) (hlt : ∀ a ∈ l, f a < 1) :
    (l.map fun a => if p a then f a else 0).sum < 1 := by
  induction l with
  | nil => exact zero_lt_one
  | cons a l ih =>
    obtain ⟨ha, hl⟩ := List.pairwise_cons.1 hone
    rw [List.map_cons, List.sum_cons]
    split
    · rename_i hp
      have hrest : (l.map fun b => if p b then f b else 0).sum = 0 := by
        refine List.sum_eq_zero fun x hx => ?_
        obtain ⟨b, hb, rfl⟩ := List.mem_map.1 hx
        exact if_neg fun hpb => ha b hb ⟨hp, hpb⟩
      rw [hrest, add_zero]
      exact hlt a (by simp)
    · rw [zero_add]
      exact ih hl fun b hb => hlt b (List.mem_cons_of_mem a hb)

namespace History

variable {h : History} {start finish : Int64} {c : Counter}

/-- The bytes of all buckets that fall into the window, not rounded. -/
def exactUsage (h : History) (start finish : Int64) (c : Counter) : ℚ :=
  (h.toList.map fun b => b.exactPortion start finish c).sum

theorem exactUsage_eq (ho : Ordered h.toList) (hw : start < finish) (asOf : Int64)
    (hfits : (h.toList.map fun b => (b.bytes c).toNat).sum ≤ 18446744073709551615) :
    h.exactUsage start finish c = ((h.usage start finish asOf).bytes c).toNat +
      (h.toList.map fun b => b.loss start finish asOf c).sum := by
  rw [bytes_usage_of_fits ho hw hfits, Nat.cast_list_sum, List.map_map, ← List.sum_map_add]
  simp [exactUsage, Bucket.loss]

/-- However many buckets a window meets, a query over it loses less than two bytes to rounding, and
nothing if no edge of the window cuts a bucket. -/
theorem usage_loss_lt_two {h : History} (hreach : h.Reachable) {c : Counter}
    (hfits : (h.toList.map fun b => (b.bytes c).toNat).sum ≤ 18446744073709551615)
    {start finish asOf : Int64} (hw : start < finish)
    (hidle : ∀ b ∈ h.toList, ¬ (b.start < asOf ∧ asOf < b.finish)) :
    0 ≤ h.exactUsage start finish c - ((h.usage start finish asOf).bytes c).toNat ∧
      h.exactUsage start finish c - ((h.usage start finish asOf).bytes c).toNat < 2 ∧
      ((∀ b ∈ h.toList, ¬ b.CutBy start ∧ ¬ b.CutBy finish) →
        h.exactUsage start finish c - ((h.usage start finish asOf).bytes c).toNat = 0) := by
  have ho : Ordered h.toList := hreach.ordered
  have hd := ho.duration_pos
  rw [exactUsage_eq ho hw asOf hfits, add_sub_cancel_left]
  refine ⟨?_, ?_, fun hwhole => ?_⟩
  · refine List.sum_nonneg fun x hx => ?_
    obtain ⟨b, hb, rfl⟩ := List.mem_map.1 hx
    exact Bucket.loss_nonneg (hd b hb) hw (hidle b hb)
  · have hlt : ∀ b ∈ h.toList, b.loss start finish asOf c < 1 := fun b hb =>
      Bucket.loss_lt_one (hd b hb) hw (hidle b hb)
    have hedges := List.sum_le_sum fun b hb =>
      Bucket.loss_le_edges (c := c) (hd b hb) hw (hidle b hb)
    rw [List.sum_map_add] at hedges
    have hstart := sum_map_ite_lt_one (ho.cutBy_one start) hlt
    have hfinish := sum_map_ite_lt_one (ho.cutBy_one finish) hlt
    linarith
  · refine List.sum_eq_zero fun x hx => ?_
    obtain ⟨b, hb, rfl⟩ := List.mem_map.1 hx
    obtain ⟨hs, hf⟩ := hwhole b hb
    exact Bucket.loss_of_not_cut (hd b hb) hw (hidle b hb) hs hf

/-- The window from 50 on cuts the first bucket, and the end of the range of instants cuts the last
one. The window up to 400 cuts no bucket. -/
theorem usage_loss_of_irregular :
    ∃ h, ofBuckets 100 [⟨0, 100, 101, 7⟩, ⟨300, 50, 50, 1⟩, ⟨9223372036854775800, 400, 401, 3⟩] =
        .ok h ∧
      (h.toList.map fun b => (b.bytes .rx).toNat).sum ≤ 18446744073709551615 ∧
      (50 : Int64) < 9223372036854775807 ∧ (0 : Int64) < 400 ∧
      (∀ b ∈ h.toList, ¬ (b.start < 200 ∧ 200 < b.finish)) ∧
      h.exactUsage 50 9223372036854775807 .rx -
        (h.usage 50 9223372036854775807 200).rx.toNat < 2 ∧
      h.exactUsage 0 400 .rx - (h.usage 0 400 200).rx.toNat = 0 := by
  let h : History := ⟨100, #[⟨0, 100, 101, 7⟩, ⟨300, 50, 50, 1⟩,
    ⟨9223372036854775800, 400, 401, 3⟩]⟩
  have hb : ofBuckets 100 h.toList = .ok h := rfl
  have hfits : (h.toList.map fun b => (b.bytes .rx).toNat).sum ≤ 18446744073709551615 := by decide
  have hlong : (50 : Int64) < 9223372036854775807 := by decide
  have hshort : (0 : Int64) < 400 := by decide
  have hidle : ∀ b ∈ h.toList, ¬ (b.start < 200 ∧ 200 < b.finish) := by decide
  obtain ⟨-, hlt, -⟩ := usage_loss_lt_two (.ofBuckets hb) hfits hlong hidle
  obtain ⟨-, -, hexact⟩ := usage_loss_lt_two (.ofBuckets hb) hfits hshort hidle
  exact ⟨h, hb, hfits, hlong, hshort, hidle, hlt, hexact (by decide)⟩

end History

end TrafficChart
